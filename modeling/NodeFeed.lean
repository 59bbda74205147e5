import NodeFeed.Json.Codec
import NodeFeed.Producer.Stream
import NodeFeed.Producer.Script
import NodeFeed.Producer.Counted
import NodeFeed.Sink.Console
import NodeFeed.Sink.Writer
import NodeFeed.Consumer.Session
import NodeFeed.Source.Set
import NodeFeed.File.Edit
import NodeFeed.Proofs.Consumer.Accounting
import NodeFeed.Proofs.Consumer.Stream
import NodeFeed.Proofs.Sink.Writer
import NodeFeed.Proofs.Json.RoundTrip
import NodeFeed.Proofs.Json.Format
import NodeFeed.Proofs.Json.Records
import NodeFeed.Proofs.Source.Lookup
import NodeFeed.Proofs.Diagnostic
import NodeFeed.Proofs.Report
import NodeFeed.Proofs.Source.Reading
import NodeFeed.Proofs.Source.Loading
import NodeFeed.Proofs.Source.Discovery
import NodeFeed.Proofs.Consumer.Unbounded
import NodeFeed.Producer.Endless
import NodeFeed.Proofs.Consumer.Halting
import NodeFeed.Proofs.Consumer.Schedule
import NodeFeed.Proofs.Consumer.Trace
import NodeFeed.Proofs.Consumer.Resumption
import NodeFeed.Proofs.Sink.Refusal
import NodeFeed.Proofs.Consumer.Answers
import NodeFeed.Proofs.Consumer.Sentinels
import NodeFeed.Proofs.Consumer.Attachment
import NodeFeed.Proofs.Consumer.Explanation
import NodeFeed.Proofs.Node.Message
import NodeFeed.Proofs.Node.Names
import NodeFeed.Proofs.Source.Index
