import CubridOperator.Controller.BackupQuiet
import CubridOperator.Controller.BootstrapKeys
import CubridOperator.Controller.Children
import CubridOperator.Controller.SeedingSound
import CubridOperator.Controller.StallRule
import CubridOperator.Controller.TokenRotation
import CubridOperator.Controller.Transitions
import CubridOperator.InstanceManager.Confinement
import CubridOperator.InstanceManager.Heartbeat
import CubridOperator.InstanceManager.KilledAttempt
import CubridOperator.InstanceManager.Logging
import CubridOperator.InstanceManager.SharedReadiness
import CubridOperator.InstanceManager.StartedData
import CubridOperator.InstanceManager.Stops
import CubridOperator.InstanceManager.StoreFailures
import CubridOperator.InstanceManager.Watchdog
