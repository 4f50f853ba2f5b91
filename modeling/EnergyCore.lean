import EnergyCore.Charging.CurrentBounds
import EnergyCore.Charging.EvChargingOptimizer
import EnergyCore.Charging.IdleStops
import EnergyCore.Charging.PausedCycles
import EnergyCore.Charging.StopDelivery
import EnergyCore.Charging.RampDelivery
import EnergyCore.Accounting.SessionStatistics
import EnergyCore.Accounting.EvTelescope
import EnergyCore.Accounting.CyclePrices
import EnergyCore.Vehicles.SessionRestarts
import EnergyCore.Vehicles.StoredTelemetry
import EnergyCore.Vehicles.CoherentState
import EnergyCore.Vehicles.TokenRotation
import EnergyCore.Vehicles.OneWorker
import EnergyCore.Financial.TaxCredit
import EnergyCore.Financial.YearSelection
import EnergyCore.Financial.DailyRollup
import EnergyCore.Marketplace.MergeOrder
import EnergyCore.Marketplace.TrustFreshness
import EnergyCore.Governance.ReportedFreshness
import EnergyCore.SupplyChain.AdvisoryFeed
import EnergyCore.Packages.FailedUpdate
import EnergyCore.Packages.FailedInstall
import EnergyCore.Packages.RollbackUndo
import EnergyCore.FlexibleLoads.Orchestrator
import EnergyCore.SpaEnergy.FeasiblePolicy
import EnergyCore.SpaEnergy.StartLimits
import EnergyCore.Isolation.StartupTokens
import EnergyCore.Consumers.BackfillTwice
import EnergyCore.Cache.StaleReads
import EnergyCore.PackageArchives.SignerIdentity
import EnergyCore.PackageArchives.HashCoverage
import EnergyCore.PackageArchives.PackagePaths
import EnergyCore.Isolation.Unauthenticated
import EnergyCore.Isolation.LaunchChecks
import EnergyCore.Isolation.HeartbeatKills
import EnergyCore.Isolation.ExclusiveLeases
import EnergyCore.Isolation.StopAtomicity
import EnergyCore.Isolation.ControlClassification
import EnergyCore.Charging.StaleEnergy
import EnergyCore.Charging.EngineRestart
import EnergyCore.Governance.OwnershipTransfers
import EnergyCore.Distribution.StagedArtifacts
import EnergyCore.Charging.TemporaryImport
import EnergyCore.Charging.ChargingUrgency
import EnergyCore.Vehicles.ChargingStateMachine
import EnergyCore.Vehicles.StationMemory
import EnergyCore.Charging.ImportPriceSchedule
import EnergyCore.Accounting.AttributionConservation
import EnergyCore.Accounting.SessionRepair
import EnergyCore.FlexibleLoads.ProjectedHorizon
import EnergyCore.FlexibleLoads.FlatPrices
import EnergyCore.SpaEnergy.FilterCycleTracker
import EnergyCore.SpaEnergy.AllowedWindow
import EnergyCore.PriceEngine.ChargeWindows
import EnergyCore.PriceEngine.LocalDays
import EnergyCore.SolarForecast.Calibration
import EnergyCore.Modules.SettledModules
import EnergyCore.Modules.StartupOrder
import EnergyCore.Isolation.RpcLimits
import EnergyCore.Readings.AggregatedReadings
