import FwkRtos.MrswLock.WriterPreferred
import FwkRtos.MrswLock.WriterPreferred.Accounting
import FwkRtos.MrswLock.WriterPreferred.Exclusion
import FwkRtos.MrswLock.WriterPreferred.WakeUp
import FwkRtos.MrswLock.ReaderPreferred
import FwkRtos.MrswLock.ReaderPreferred.Correctness
import FwkRtos.Bytes.LittleEndian
import FwkRtos.Bytes.Memory
import FwkRtos.Rpc.Call
import FwkRtos.Rpc.Transparency
import FwkRtos.Rpc.Client
import FwkRtos.Rpc.OwnResponse
import FwkRtos.QspiFlash.Driver
import FwkRtos.QspiFlash.Steps
import FwkRtos.QspiFlash.Locking
import FwkRtos.QspiFlash.Order
import FwkRtos.QspiFlash.Readers
import FwkRtos.QspiFlash.PinUse
import FwkRtos.QspiFlash.Resume
import FwkRtos.QspiFlash.PortMode
import FwkRtos.UartRx.Driver
import FwkRtos.UartRx.Overrun
import FwkRtos.UartRx.Stranded
import FwkRtos.Ring.Content
import FwkRtos.SampleStream.Buffer
import FwkRtos.SampleStream.Call
import FwkRtos.SampleStream.HandShake
import FwkRtos.SampleStream.Protocol
import FwkRtos.I2s.Driver
import FwkRtos.I2s.Views
import FwkRtos.I2s.Words
import FwkRtos.I2s.TimeOuts
import FwkRtos.Transition.Fairness
import FwkRtos.I2s.Release
import FwkRtos.I2s.Receive
import FwkRtos.I2s.Send
import FwkRtos.MicArray.Driver
import FwkRtos.MicArray.Words
import FwkRtos.MicArray.Fifo
import FwkRtos.MicArray.Release
import FwkRtos.QspiFlash.Contents
import FwkRtos.QspiFlash.Remote
import FwkRtos.QspiFlash.RemoteReads
import FwkRtos.SpiSlave.Driver
import FwkRtos.SpiSlave.Callbacks
import FwkRtos.SpiSlave.Accounts
import FwkRtos.SpiSlave.HandBack
import FwkRtos.I2cSlave.Driver
import FwkRtos.I2cSlave.Phases
import FwkRtos.I2cSlave.Steps
import FwkRtos.I2cSlave.Interface
import FwkRtos.I2cSlave.Events
import FwkRtos.I2cSlave.Told
import FwkRtos.I2cSlave.Protocol
import FwkRtos.Intertile.Frame
import FwkRtos.Intertile.Sender
import FwkRtos.Intertile.Framing
import FwkRtos.Intertile.Listening
import FwkRtos.Intertile.Receiving
import FwkRtos.DeviceControl.Core
import FwkRtos.DeviceControl.Registration
import FwkRtos.GenericPipeline.Order
import FwkRtos.GenericPipeline.Progress
import FwkRtos.Dhcpd.Lease
import FwkRtos.Dhcpd.Server
import FwkRtos.Dhcpd.Consistency
import FwkRtos.Dhcpd.Exclusive
import FwkRtos.Dhcpd.Listening
import FwkRtos.Sorting.Heapsort
import FwkRtos.WifiManager.ApCache
import FwkRtos.WifiManager.Representation
import FwkRtos.WifiManager.Manager
import FwkRtos.WifiManager.ConnectedAp
import FwkRtos.RtosIrq.Interrupts
import FwkRtos.RtosIrq.Tokens
import FwkRtos.RtosIrq.Delivery
import FwkRtos.Bytes.Records
import FwkRtos.SlWfx.NetworkProfiles
import FwkRtos.SlWfx.Confirmation
import FwkRtos.SlWfx.ReceiveTask
import FwkRtos.SlWfx.Scan
import FwkRtos.SlWfx.StopRequests
import FwkRtos.Usb.ControlEndpoint
import FwkRtos.ClockControl.Exclusive
import FwkRtos.Fatfs.DiskIo
import FwkRtos.Fatfs.Faithful
import FwkRtos.FatfsMkimage.DirectoryAdd
import FwkRtos.FatfsMkimage.Image
import FwkRtos.DeviceControl.BufferBounds
import FwkRtos.DeviceControl.SpiControl
import FwkRtos.Bytes.Overlay
import FwkRtos.DatapartitionMkimage.Files
import FwkRtos.DatapartitionMkimage.Image
import FwkRtos.MrswLock.WriterPreferred.Preference
import FwkRtos.QspiFlash.ReadResult
import FwkRtos.I2s.ReceiveFilter
import FwkRtos.I2s.ReceivePath
import FwkRtos.QspiFlash.EraseRange
import FwkRtos.QspiFlash.WriteRange
import FwkRtos.DeviceControl.HostPackets
import FwkRtos.I2s.LocalReceive
import FwkRtos.I2s.RemoteReceive
import FwkRtos.SlWfx.ProfileFaults
import FwkRtos.UartRx.Drain
import FwkRtos.SpiMaster.Bus
import FwkRtos.SpiMaster.Progress
import FwkRtos.SlWfx.LinkControl
import FwkRtos.SlWfx.LinkResults
import FwkRtos.Dhcpd.Discover
import FwkRtos.Dhcpd.Expiry
import FwkRtos.Dhcpd.Inform
import FwkRtos.Dhcpd.Options
import FwkRtos.Dhcpd.PoolContent
import FwkRtos.DatapartitionMkimage.Arguments
import FwkRtos.DatapartitionMkimage.Offsets
import FwkRtos.DatapartitionMkimage.ShortTransfers
import FwkRtos.DatapartitionMkimage.WholeTransfers
import FwkRtos.SystemTime
import FwkRtos.Usb.ConfigDescriptor
import FwkRtos.WifiManager.UniqueAps
import FwkRtos.AsciiTrace.Format
import FwkRtos.DfuImage
import FwkRtos.Sntpd
import FwkRtos.SpiMaster.RemoteDevices
import FwkRtos.Intertile.Link
import FwkRtos.Usb.OutEndpoints
import FwkRtos.Swmem
import FwkRtos.I2cMaster
import FwkRtos.UartTx
