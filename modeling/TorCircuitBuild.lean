import TorCircuitBuild.Types
import TorCircuitBuild.CircId
import TorCircuitBuild.PathSelection
import TorCircuitBuild.NodeChoice
import TorCircuitBuild.ExitChoice
import TorCircuitBuild.PathBiasParams
import TorCircuitBuild.GuardCounts
import TorCircuitBuild.Accountant
import TorCircuitBuild.CloseProbe
import TorCircuitBuild.Frame
import TorCircuitBuild.BuildMachine
import TorCircuitBuild.HopShape
import TorCircuitBuild.Books
import TorCircuitBuild.BuildBooks
import TorCircuitBuild.AttemptScaling
import TorCircuitBuild.CloseAccounting
import TorCircuitBuild.CpathRing
import TorCircuitBuild.GuardLatch
import TorCircuitBuild.RelayExtend
import TorCircuitBuild.ISec
import TorCircuitBuild.CpathReaders
import TorCircuitBuild.CloseFinal
import TorCircuitBuild.CircIdLink
import TorCircuitBuild.BuildProgress
import TorCircuitBuild.PathStates
import TorCircuitBuild.DistinctRelays
