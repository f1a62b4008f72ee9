import LL320D.Proofs.SensorReplies
import LL320D.Proofs.YmodemTransfer
import LL320D.Proofs.RingBufferFifo
import LL320D.Proofs.LteLines
import LL320D.Proofs.BleInputSlot
import LL320D.Proofs.ThreadMessages
import LL320D.Proofs.WakeupTimers
import LL320D.Proofs.YmodemPrefix
import LL320D.Proofs.SensorConservation
import LL320D.Proofs.TranMacList
import LL320D.Proofs.PowerState
import LL320D.Proofs.LteUartBusy
import LL320D.Proofs.LinkLoss
import LL320D.Proofs.ScanQueueNotify
import LL320D.Proofs.DownloadRequests
import LL320D.Proofs.SilentPeer
import LL320D.Proofs.FlashStoreRecovery
import LL320D.Proofs.LineInjection
import LL320D.Proofs.MotionWindow
import LL320D.Proofs.ThresholdAlarms
import LL320D.Proofs.ExactSettings
import LL320D.Proofs.CdataRoundTrip
import LL320D.Proofs.BatteryDisplay
import LL320D.Proofs.YmodemBounds
import LL320D.Proofs.LongLifeSchedule
import LL320D.PacketTrans
import LL320D.Proofs.Segmentation
import LL320D.Proofs.TransferAck
