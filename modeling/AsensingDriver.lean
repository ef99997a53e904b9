import AsensingDriver.Corruption
import AsensingDriver.Contract
import AsensingDriver.FloatRange
import AsensingDriver.DeviceTime
import AsensingDriver.RunningStats
import AsensingDriver.StaticWindow
import AsensingDriver.Indicator
import AsensingDriver.SerialPort
import AsensingDriver.ReportJson
import AsensingDriver.WriteAtomic
import AsensingDriver.Descriptors
import AsensingDriver.TopicHealth
import AsensingDriver.Checked
import AsensingDriver.Recovery
import AsensingDriver.EndToEnd
import AsensingDriver.Snapshots
import AsensingDriver.Port
import AsensingDriver.Lib.Markdown
import AsensingDriver.ReportMarkdown
