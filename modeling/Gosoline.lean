import Gosoline.Time
import Gosoline.Text
import Gosoline.Mon.Metric
import Gosoline.Mon.MetricId
import Gosoline.Mon.MetricWriterCw
import Gosoline.Mon.LogFields
import Gosoline.Mon.Logger
import Gosoline.Stream.Message
import Gosoline.Stream.ProducerDaemon
import Gosoline.Stream.Run
import Gosoline.Stream.Conservation
import Gosoline.Stream.Thresholds
import Gosoline.Stream.Metrics
import Gosoline.Stream.Shutdown
import Gosoline.Stream.Drain
import Gosoline.Stream.Registry
import Gosoline.Apiserver.PathRaw
import Gosoline.Apiserver.LoggingMiddleware
import Gosoline.Currency.Model
import Gosoline.Currency.Updater
import Gosoline.Currency.Service
import Gosoline.Currency.GapDays
import Gosoline.Currency.Import
import Gosoline.Currency.Module
import Gosoline.Fixtures.MysqlOrm
