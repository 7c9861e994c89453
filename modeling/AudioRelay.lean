import AudioRelay.Main
import AudioRelay.Session.Solo
import AudioRelay.Proofs.Run
import AudioRelay.Proofs.Worker
import AudioRelay.Proofs.Lifecycle
import AudioRelay.Proofs.Deed
import AudioRelay.Proofs.View
import AudioRelay.Proofs.Passage
import AudioRelay.Proofs.DeviceCall
import AudioRelay.Proofs.Playback
import AudioRelay.Proofs.Capture
import AudioRelay.Proofs.Isolation
import AudioRelay.Proofs.Chronicle
import AudioRelay.Proofs.Mark
import AudioRelay.Proofs.Career
import AudioRelay.Proofs.Ledger
import AudioRelay.Proofs.Exit
import AudioRelay.Proofs.Level
import AudioRelay.Proofs.Restart
import AudioRelay.Proofs.Teardown
import AudioRelay.Proofs.Start
import AudioRelay.Proofs.FailedStart
import AudioRelay.Proofs.Quiescence
import AudioRelay.Proofs.Sign
import AudioRelay.Proofs.Silence
import AudioRelay.Proofs.FrameQueue
import AudioRelay.Proofs.Interleaving
import AudioRelay.Proofs.Scaling
import AudioRelay.Proofs.Rounding
import AudioRelay.Proofs.Nearest
import AudioRelay.Proofs.SampleGain
import AudioRelay.Proofs.SampleRounding
import AudioRelay.Proofs.NearestPattern
import AudioRelay.Proofs.FloatGain
import AudioRelay.Proofs.GainOrder
import AudioRelay.Proofs.Transfer
import AudioRelay.Proofs.Balance
import AudioRelay.Proofs.FrameBalance
import AudioRelay.Proofs.GainSafety
import AudioRelay.Proofs.Stock
import AudioRelay.Proofs.BlockingWrite
import AudioRelay.Proofs.BlockingProgress
import AudioRelay.Proofs.CopyLoop
import AudioRelay.Proofs.TransferStep
import AudioRelay.Proofs.Course
import AudioRelay.Proofs.PlaybackTransfer
import AudioRelay.Proofs.Cutting
import AudioRelay.Proofs.CaptureTransfer
import AudioRelay.Proofs.ReadableWait
import AudioRelay.Proofs.RetryCount
import AudioRelay.Proofs.DeviceRetry
import AudioRelay.Proofs.Refinement
import AudioRelay.Proofs.RefinedSession
import AudioRelay.Proofs.AddressGroup
import AudioRelay.Proofs.AddressWriting
import AudioRelay.Proofs.SharedDevice
import AudioRelay.Proofs.WholeReads
import AudioRelay.Proofs.StoppedDevice
import AudioRelay.Proofs.NoiseReplay
import AudioRelay.Proofs.PlayTime
import AudioRelay.Proofs.WideTime
import AudioRelay.Proofs.CheckedSize
import AudioRelay.Proofs.WorkerBuffer
import AudioRelay.Proofs.SizeSafety
