import Mathlib

/-!
# JSON values

The values that `json.loads` makes, with the operations of dictionaries, truth and equality that programs use on
them, and the canonical text that content hashes are taken of. What `str` and `upper` make of values and texts
is left open up to their laws.

* `dumps` — the canonical text;
* `PyText.upper_of_all` — upper-case words are left alone.
-/

namespace EnergyCore.JsonValues

/-! ### Values -/

/-- Integers, among them the two booleans. -/
inductive PyInt where
  | int (n : ℤ)
  | bool (b : Bool)
  deriving Repr, DecidableEq

def PyInt.value : PyInt → ℤ
  | .int n => n
  | .bool b => if b then 1 else 0

/-- Values; floating-point numbers are kept as their texts. -/
inductive Json where
  | null
  | num (n : PyInt)
  | float (text : String)
  | str (s : String)
  | arr (items : List Json)
  | obj (members : List (String × Json))
  deriving Repr

/-- A dictionary. -/
abbrev Dict := List (String × Json)

/-- `d.get(key)`, where the key may be missing. -/
def findItem (d : Dict) (key : String) : Option Json :=
  (List.find? (fun m => decide (m.1 = key)) d).map Prod.snd

/-- `d.get(key, default)`. -/
def getItemOr (d : Dict) (key : String) (default : Json) : Json := (findItem d key).getD default

/-- `d.get(key)`. -/
def getItem (d : Dict) (key : String) : Json := getItemOr d key .null

theorem findItem_cons (m : String × Json) (d : Dict) (key : String) :
    findItem (m :: d) key = if m.1 = key then some m.2 else findItem d key := by
  unfold findItem
  split_ifs with h
  · rw [List.find?_cons_of_pos (by simpa using h), Option.map_some]
  · rw [List.find?_cons_of_neg (by simpa using h)]

theorem findItem_eq_none {d : Dict} {key : String} (h : key ∉ d.map Prod.fst) : findItem d key = none := by
  induction d with
  | nil => rfl
  | cons m d ih =>
    rw [List.map_cons, List.mem_cons, not_or] at h
    rw [findItem_cons, if_neg (Ne.symm h.1), ih h.2]

theorem findItem_append (d d' : Dict) (key : String) :
    findItem (d ++ d') key = (findItem d key).or (findItem d' key) := by
  unfold findItem
  rw [List.find?_append, Option.map_or]

/-- `{key: value for key, value in members if value is not None}`. -/
def optionalMembers (members : Dict) : Dict :=
  members.filter fun m => match m.2 with
    | .null => false
    | _ => true

/-- Members without a value are not missed. -/
theorem getItem_optionalMembers {members : Dict} (h : (members.map Prod.fst).Nodup) (key : String) :
    getItem (optionalMembers members) key = getItem members key := by
  induction members with
  | nil => rfl
  | cons m members ih =>
    obtain ⟨hfresh, hrest⟩ := List.nodup_cons.mp h
    have ih := ih hrest
    unfold getItem getItemOr optionalMembers at ih ⊢
    rw [findItem_cons, List.filter_cons]
    by_cases hkey : m.1 = key
    · rw [if_pos hkey]
      have hmissing : findItem (optionalMembers members) key = none := by
        refine findItem_eq_none fun hmem => hfresh ?_
        rw [hkey]
        exact (List.filter_sublist.map Prod.fst).subset hmem
      unfold optionalMembers at hmissing
      split_ifs with hnull
      · rw [findItem_cons, if_pos hkey]
      · rw [hmissing]
        obtain ⟨key', value⟩ := m
        cases value with
        | null => rfl
        | _ => exact absurd rfl hnull
    · rw [if_neg hkey]
      split_ifs
      · rw [findItem_cons, if_neg hkey]
        exact ih
      · exact ih

namespace Json

/-- `bool(value)`. -/
def truthy : Json → Bool
  | .null => false
  | .num n => decide (n.value ≠ 0)
  | .float text => decide (text ≠ "0.0" ∧ text ≠ "-0.0")
  | .str s => decide (s ≠ "")
  | .arr items => !items.isEmpty
  | .obj members => !members.isEmpty

/-- `first or second`. -/
def orElse (first second : Json) : Json := if first.truthy then first else second

/-- A dictionary, or an empty one. -/
def asDict : Json → Dict
  | .obj members => members
  | _ => []

/-- A list, or an empty one. -/
def asList : Json → List Json
  | .arr items => items
  | _ => []

/-- `isinstance(value, str)` with a text that is not empty. -/
def nonemptyStr : Json → Option String
  | .str s => if s = "" then none else some s
  | _ => none

theorem nonemptyStr_eq_some {value : Json} {s : String} (h : value.nonemptyStr = some s) :
    value = .str s ∧ s ≠ "" := by
  cases value with
  | str s' =>
    rw [Json.nonemptyStr] at h
    split_ifs at h with hempty
    rw [Option.some.injEq] at h
    exact ⟨congrArg Json.str h, h ▸ hempty⟩
  | null | num _ | float _ | arr _ | obj _ => cases h

theorem nonemptyStr_str {s : String} (h : s ≠ "") : (Json.str s).nonemptyStr = some s := if_neg h

/-- A text, or an empty one. -/
def strD : Json → String
  | .str s => s
  | _ => ""

/-- The elements that iterating over a value gives. -/
def iterate : Json → Option (List Json)
  | .arr items => some items
  | .str s => some (s.toList.map fun c => .str (String.singleton c))
  | .obj members => some (members.map fun m => .str m.1)
  | _ => none

end Json

/-- The values of a list that is parsed come from its items. -/
theorem mem_of_mapM_ok {ε α β : Type*} {f : α → Except ε β} {items : List α} {results : List β}
    (h : items.mapM f = .ok results) : ∀ b ∈ results, ∃ a ∈ items, f a = .ok b := by
  induction items generalizing results with
  | nil =>
    cases h
    exact fun b hb => absurd hb List.not_mem_nil
  | cons a items ih =>
    rw [List.mapM_cons] at h
    cases hfirst : f a with
    | error e => rw [hfirst] at h; cases h
    | ok b =>
      rw [hfirst] at h
      cases hrest : items.mapM f with
      | error e => rw [hrest] at h; cases h
      | ok rest =>
        rw [hrest] at h
        cases h
        intro b' hb'
        rcases List.mem_cons.mp hb' with rfl | hb'
        · exact ⟨a, List.mem_cons_self, hfirst⟩
        · obtain ⟨a', ha', hfound⟩ := ih hrest b' hb'
          exact ⟨a', List.mem_cons_of_mem a ha', hfound⟩

/-! ### Equality -/

mutual

/-- `==` of values; dictionaries are compared without their order. -/
def same : Json → Json → Bool
  | .null, .null => true
  | .num n, .num n' => decide (n.value = n'.value)
  | .float text, .float text' => decide (text = text')
  | .str s, .str s' => decide (s = s')
  | .arr items, .arr items' => sameItems items items'
  | .obj members, .obj members' =>
    decide (members.length = members'.length) && sameMembers members members'
  | _, _ => false

def sameItems : List Json → List Json → Bool
  | [], [] => true
  | item :: items, item' :: items' => same item item' && sameItems items items'
  | _, _ => false

/-- Every member is found in the other dictionary. -/
def sameMembers : List (String × Json) → Dict → Bool
  | [], _ => true
  | (key, value) :: members, d =>
    ((findItem d key).any fun value' => same value value') && sameMembers members d

end

/-! ### Canonical text -/

def hexDigit (n : ℕ) : Char := (if n % 16 < 10 then Char.ofNat (48 + n % 16) else Char.ofNat (87 + n % 16))

/-- `\uXXXX`. -/
def unicodeEscape (n : ℕ) : List Char :=
  ['\\', 'u', hexDigit (n / 4096), hexDigit (n / 256), hexDigit (n / 16), hexDigit n]

/-- A character within a string, in ASCII. -/
def escapeChar (c : Char) : List Char :=
  if c.toNat = 34 ∨ c.toNat = 92 then ['\\', c]
  else if 32 ≤ c.toNat ∧ c.toNat ≤ 126 then [c]
  else if c.toNat = 10 then ['\\', 'n']
  else if c.toNat = 13 then ['\\', 'r']
  else if c.toNat = 9 then ['\\', 't']
  else if c.toNat = 12 then ['\\', 'f']
  else if c.toNat = 8 then ['\\', 'b']
  else if c.toNat < 65536 then unicodeEscape c.toNat
  else
    -- a surrogate pair
    unicodeEscape (55296 + (c.toNat - 65536) / 1024) ++ unicodeEscape (56320 + (c.toNat - 65536) % 1024)

def quoted (s : String) : String :=
  String.ofList (Char.ofNat 34 :: s.toList.flatMap escapeChar ++ [Char.ofNat 34])

mutual

/-- `json.dumps(value, sort_keys=True, separators=(",", ":"))`. -/
def dumps : Json → String
  | .null => "null"
  | .num (.int n) => toString n
  | .num (.bool b) => if b then "true" else "false"
  | .float text => text
  | .str s => quoted s
  | .arr items => "[" ++ String.intercalate "," (dumpsItems items) ++ "]"
  | .obj members =>
    "\x7b" ++ String.intercalate ","
      (((dumpsMembers members).insertionSort fun m m' => m.1 ≤ m'.1).map fun m =>
        quoted m.1 ++ ":" ++ m.2) ++ "\x7d"

def dumpsItems : List Json → List String
  | [] => []
  | item :: items => dumps item :: dumpsItems items

def dumpsMembers : List (String × Json) → List (String × String)
  | [] => []
  | (key, value) :: members => (key, dumps value) :: dumpsMembers members

end

example : dumps (.obj [("b", .arr [.null, .num (.int 3)]), ("a", .str "x")])
    = "\x7b\"a\":\"x\",\"b\":[null,3]\x7d" := by decide +kernel

/-! ### Texts -/

/-- `str` of values, and `upper` of texts, with the laws that are relied on. -/
structure PyText where
  str : Json → String
  upper : String → String
  str_str : ∀ s, str (.str s) = s
  upper_upper : ∀ s, upper (upper s) = upper s
  upper_of_words : ∀ s, (∀ c ∈ s.toList, c.isUpper = true) → upper s = s

namespace PyText

/-- The texts of values that hold no list, dictionary or letter outside ASCII. -/
def ascii : PyText where
  str
    | .null => "None"
    | .num (.int n) => toString n
    | .num (.bool b) => if b then "True" else "False"
    | .float text => text
    | .str s => s
    | value => dumps value
  upper s := String.ofList (s.toList.map Char.toUpper)
  str_str _ := rfl
  upper_upper s := by
    rw [String.toList_ofList, List.map_map]
    congr 1
    exact List.map_congr_left fun c _ => Char.toUpper_toUpper_eq_toUpper c
  upper_of_words s h := by
    have hsame : s.toList.map Char.toUpper = s.toList := by
      refine (List.map_congr_left fun c hc => ?_).trans (List.map_id _)
      refine Char.toUpper_eq_of_not_isLower fun hlower => ?_
      have hupper := h c hc
      rw [Char.isLower, Bool.and_eq_true, decide_eq_true_eq] at hlower
      have hle := UInt32.le_trans hlower.1 (of_decide_eq_true hupper).2
      exact absurd hle (by decide)
    rw [hsame, String.ofList_toList]

theorem upper_of_all (text : PyText) {s : String} (h : s.toList.all Char.isUpper = true) : text.upper s = s :=
  text.upper_of_words s (List.all_eq_true.mp h)

end PyText

end EnergyCore.JsonValues
