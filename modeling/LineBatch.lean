import LineBatch.Batch.Crew
import LineBatch.Batch.Run
import LineBatch.Charset.Basic
import LineBatch.Charset.Decode
import LineBatch.Charset.Measure
import LineBatch.Charset.SingleByte
import LineBatch.Charset.Table.Big5
import LineBatch.Charset.Table.EucKr
import LineBatch.Charset.Table.Gb18030
import LineBatch.Charset.Table.Jis0208
import LineBatch.Charset.Table.Jis0212
import LineBatch.Cli.Flags
import LineBatch.Cli.Logger
import LineBatch.Cli.Program
import LineBatch.Decimal.Binary64
import LineBatch.Decimal.Fixed
import LineBatch.Decimal.Integer
import LineBatch.Decimal.Prefixed
import LineBatch.Decimal.Read
import LineBatch.Decimal.Shortest
import LineBatch.Error
import LineBatch.Http.Basic
import LineBatch.Http.Client
import LineBatch.Http.Source
import LineBatch.Jobs.Extract
import LineBatch.Line
import LineBatch.Location.Parse
import LineBatch.Location.Url
import LineBatch.Log
import LineBatch.Main
import LineBatch.Pattern.Parse
import LineBatch.Pattern.Program
import LineBatch.Pattern.Regex
import LineBatch.Pattern.Search
import LineBatch.Pattern.Syntax
import LineBatch.Progress.Policy
import LineBatch.Progress.State
import LineBatch.Reader.Basic
import LineBatch.Reader.Cooldown
import LineBatch.Settings.Basic
import LineBatch.Settings.Env
import LineBatch.Settings.File
import LineBatch.Source.Blob
import LineBatch.Source.Bucket
import LineBatch.Source.Scripted
import LineBatch.Source.Stream
import LineBatch.Store.Disk
import LineBatch.Text.Blank
import LineBatch.Text.CaseFold
import LineBatch.Text.Format
import LineBatch.Text.Keyword
import LineBatch.Text.Quoted
import LineBatch.Text.Unicode
import LineBatch.Text.Utf8
import LineBatch.Units.Duration
import LineBatch.Units.DurationRead
import LineBatch.Units.Size
import LineBatch.Worker.Loop
import LineBatch.Worker.Processor
import LineBatch.Worker.Script
import LineBatch.Worker.Status
import LineBatch.Yaml.Compose
import LineBatch.Yaml.Cursor
import LineBatch.Yaml.Decode
import LineBatch.Yaml.Resolve
import LineBatch.Yaml.Scalar
import LineBatch.Yaml.Scanner
import LineBatch.Yaml.Token
import LineBatch.Proofs.Reader.RawLines
import LineBatch.Proofs.Reader.Resume
import LineBatch.Proofs.Worker.Moves
import LineBatch.Proofs.Crew.Ledger
import LineBatch.Proofs.Crew.Deal
import LineBatch.Proofs.Crew.Tally
import LineBatch.Proofs.Batch.Launch
import LineBatch.Proofs.Jobs.ResultFile
import LineBatch.Proofs.Progress.Percentage
import LineBatch.Proofs.Jobs.BytesProgress
import LineBatch.Proofs.Reader.Sections
import LineBatch.Proofs.Reader.Rollback
import LineBatch.Proofs.Reader.Retries
import LineBatch.Proofs.Reader.Count
import LineBatch.Proofs.Reader.Pauses
import LineBatch.Proofs.Reader.SideBySide
import LineBatch.Proofs.Worker.Trace
import LineBatch.Proofs.Worker.Lifecycle
import LineBatch.Proofs.Worker.SkipLimit
import LineBatch.Proofs.Batch.Outcome
import LineBatch.Proofs.Error.Placeholders
import LineBatch.Proofs.Settings.Layers
import LineBatch.Proofs.Jobs.SetupFailure
import LineBatch.Proofs.Http.Exchanges
import LineBatch.Proofs.Http.Contract
import LineBatch.Proofs.Source.Contract
import LineBatch.Proofs.Error.Truncation
import LineBatch.Proofs.Http.Backoff
import LineBatch.Proofs.Location.Hosts
import LineBatch.Proofs.Location.Reading
import LineBatch.Proofs.Location.RoundTrip
