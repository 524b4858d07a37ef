import GpsTracker.Lib.ListSearch
import GpsTracker.Lib.Loop
import GpsTracker.Lib.Segmenter
import GpsTracker.Utils.Buffer
import GpsTracker.Utils.BufferQueue
import GpsTracker.Lib.CString
import GpsTracker.Lib.Place
import GpsTracker.Lib.Greedy
import GpsTracker.Utils.BufferQuery
import GpsTracker.Minmea.Types
import GpsTracker.Utils.Stdlib
import GpsTracker.Lib.Numeral
import GpsTracker.Utils.Strtol
import GpsTracker.Minmea.Parse
import GpsTracker.Gps.ParseNmea
import GpsTracker.Gps.Sentences
import GpsTracker.Gps.ParseCalls
import GpsTracker.Gps.ParseMemory
import GpsTracker.Gps.Update
import GpsTracker.Gps.Frames
import GpsTracker.Gps.Delivery
import GpsTracker.Gps.Clipping
import GpsTracker.Gps.NextFrame
import GpsTracker.Gps.Ack
import GpsTracker.Minmea.Stores
import GpsTracker.Minmea.HeldFields
import GpsTracker.Gps.Rejected
import GpsTracker.App.Coordinates
import GpsTracker.Lib.Latest
import GpsTracker.App.Report
import GpsTracker.App.Hemisphere
import GpsTracker.Minmea.Blank
import GpsTracker.App.Tracker
import GpsTracker.Lib.Fifo
import GpsTracker.Utils.BufferFifo
import GpsTracker.Gps.AckCheck
import GpsTracker.Gps.AckSound
import GpsTracker.Gps.HttpGet
import GpsTracker.App.HttpPost
import GpsTracker.Gps.Agps
import GpsTracker.Gps.AgpsPacks
import GpsTracker.Gps.AgpsCleanUp
import GpsTracker.App.Bringup
import GpsTracker.Gps.Command
import GpsTracker.Gps.Semaphore
import GpsTracker.Gps.AckOwner
import GpsTracker.Gps.AckFresh
import GpsTracker.App.Led
import GpsTracker.App.Conversion
import GpsTracker.App.MainLoop
import GpsTracker.Gps.FrameSlots
import GpsTracker.App.FixMode
import GpsTracker.App.LastFix
import GpsTracker.Gps.AgpsBounds
import GpsTracker.Gps.Parity
import GpsTracker.Gps.CmdSend
import GpsTracker.Gps.AckInside
import GpsTracker.Utils.Ntp
import GpsTracker.Gps.Version
import GpsTracker.Minmea.Check
import GpsTracker.Minmea.WrongByte
import GpsTracker.Lib.Decimal
import GpsTracker.Utils.DecimalConversion
import GpsTracker.Minmea.Fields
import GpsTracker.Minmea.WrittenFields
import GpsTracker.Minmea.DecimalField
import GpsTracker.Minmea.Written
import GpsTracker.Minmea.Records
import GpsTracker.Gps.Reception
import GpsTracker.App.Readings
import GpsTracker.Gps.Requests
import GpsTracker.Gps.RequestsSent
import GpsTracker.Gps.Replies
import GpsTracker.Gps.Exchange
import GpsTracker.Gps.Session
import GpsTracker.Gps.Upload
import GpsTracker.Gps.ApiFs
import GpsTracker.Gps.NmeaLog
import GpsTracker.App.RequestPath
import GpsTracker.App.StartUp
import GpsTracker.App.Uploads
import GpsTracker.App.Wire
import GpsTracker.App.Freshness
import GpsTracker.App.Track
