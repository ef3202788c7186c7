import GroundedAnswers.Answering.Generation
import GroundedAnswers.Answering.Operation
import GroundedAnswers.Answering.Pipeline
import GroundedAnswers.Backend
import GroundedAnswers.Chat.Message
import GroundedAnswers.Chat.Request
import GroundedAnswers.Chat.Response
import GroundedAnswers.Chat.Usage
import GroundedAnswers.Chunking.Basic
import GroundedAnswers.Chunking.Pieces
import GroundedAnswers.Chunking.Scan
import GroundedAnswers.Chunking.Strategy
import GroundedAnswers.CommandLine.Command
import GroundedAnswers.CommandLine.Failure
import GroundedAnswers.CommandLine.Files
import GroundedAnswers.CommandLine.Options
import GroundedAnswers.CommandLine.Report
import GroundedAnswers.CommandLine.Run
import GroundedAnswers.CommandLine.Usage
import GroundedAnswers.CommandLine.Words
import GroundedAnswers.Context.Basic
import GroundedAnswers.Context.Family
import GroundedAnswers.Embedding.BagOfWords
import GroundedAnswers.Embedding.Basic
import GroundedAnswers.Failure.Description
import GroundedAnswers.Failure.Model
import GroundedAnswers.Failure.Retrieval
import GroundedAnswers.Formats
import GroundedAnswers.Gateway.Basic
import GroundedAnswers.Gateway.Draft
import GroundedAnswers.Gateway.Retry
import GroundedAnswers.Gateway.Settings
import GroundedAnswers.Identifier
import GroundedAnswers.Json.Basic
import GroundedAnswers.Json.Canonical
import GroundedAnswers.Json.Description
import GroundedAnswers.Json.Lexer
import GroundedAnswers.Json.Members
import GroundedAnswers.Json.Reader
import GroundedAnswers.Json.Record
import GroundedAnswers.Json.Writer
import GroundedAnswers.Main
import GroundedAnswers.Model.Info
import GroundedAnswers.Model.Pricing
import GroundedAnswers.Number.Binary
import GroundedAnswers.Number.Fixed
import GroundedAnswers.Number.Numeral
import GroundedAnswers.Number.Shortest
import GroundedAnswers.Proofs.Answering.Citing
import GroundedAnswers.Proofs.Answering.Degradation
import GroundedAnswers.Proofs.Answering.Faithful
import GroundedAnswers.Proofs.Answering.History
import GroundedAnswers.Proofs.Answering.InMemory
import GroundedAnswers.Proofs.Answering.Ingest
import GroundedAnswers.Proofs.Answering.Isolation
import GroundedAnswers.Proofs.Answering.Merging
import GroundedAnswers.Proofs.Answering.Parts
import GroundedAnswers.Proofs.Answering.Reachable
import GroundedAnswers.Proofs.Answering.Replies
import GroundedAnswers.Proofs.Answering.Schedule
import GroundedAnswers.Proofs.Answering.Searching
import GroundedAnswers.Proofs.Answering.World
import GroundedAnswers.Proofs.Answering.Yielding
import GroundedAnswers.Proofs.Chunking.Chunks
import GroundedAnswers.Proofs.Chunking.Sentences
import GroundedAnswers.Proofs.Chunking.Sizes
import GroundedAnswers.Proofs.Chunking.Windows
import GroundedAnswers.Proofs.Chunking.Words
import GroundedAnswers.Proofs.CommandLine.Chatting
import GroundedAnswers.Proofs.CommandLine.Loading
import GroundedAnswers.Proofs.CommandLine.Running
import GroundedAnswers.Proofs.CommandLine.Sources
import GroundedAnswers.Proofs.Distinct
import GroundedAnswers.Proofs.Formats
import GroundedAnswers.Proofs.Gateway.Attempts
import GroundedAnswers.Proofs.Gateway.Backoff
import GroundedAnswers.Proofs.Gateway.Billing
import GroundedAnswers.Proofs.Gateway.Budget
import GroundedAnswers.Proofs.Gateway.Building
import GroundedAnswers.Proofs.Gateway.Calls
import GroundedAnswers.Proofs.Gateway.Chats
import GroundedAnswers.Proofs.Gateway.Course
import GroundedAnswers.Proofs.Gateway.Drafts
import GroundedAnswers.Proofs.Gateway.Endings
import GroundedAnswers.Proofs.Gateway.Environment
import GroundedAnswers.Proofs.Gateway.FirstCall
import GroundedAnswers.Proofs.Gateway.Interruption
import GroundedAnswers.Proofs.Gateway.Outcomes
import GroundedAnswers.Proofs.Gateway.Recording
import GroundedAnswers.Proofs.Gateway.Timetable
import GroundedAnswers.Proofs.Gateway.Yielding
import GroundedAnswers.Proofs.Gateway.Zoom
import GroundedAnswers.Proofs.Identifier
import GroundedAnswers.Proofs.Json.Containers
import GroundedAnswers.Proofs.Json.Decimals
import GroundedAnswers.Proofs.Json.Numerals
import GroundedAnswers.Proofs.Json.Records
import GroundedAnswers.Proofs.Json.Texts
import GroundedAnswers.Proofs.Number.Comparison
import GroundedAnswers.Proofs.Number.Digits
import GroundedAnswers.Proofs.Number.Operations
import GroundedAnswers.Proofs.Number.Packing
import GroundedAnswers.Proofs.Number.Powers
import GroundedAnswers.Proofs.Number.Printing
import GroundedAnswers.Proofs.Number.Products
import GroundedAnswers.Proofs.Number.Quotients
import GroundedAnswers.Proofs.Number.Reading
import GroundedAnswers.Proofs.Number.Roots
import GroundedAnswers.Proofs.Number.Rounding
import GroundedAnswers.Proofs.Number.Shares
import GroundedAnswers.Proofs.Number.Unsigned
import GroundedAnswers.Proofs.Places
import GroundedAnswers.Proofs.Retrieval.BatchSeries
import GroundedAnswers.Proofs.Retrieval.Batches
import GroundedAnswers.Proofs.Retrieval.Contents
import GroundedAnswers.Proofs.Retrieval.Cosine
import GroundedAnswers.Proofs.Retrieval.Embedding
import GroundedAnswers.Proofs.Retrieval.Listwise
import GroundedAnswers.Proofs.Retrieval.Pointwise
import GroundedAnswers.Proofs.Retrieval.Ranking
import GroundedAnswers.Proofs.Retrieval.Renaming
import GroundedAnswers.Proofs.Retrieval.Repeats
import GroundedAnswers.Proofs.Retrieval.Results
import GroundedAnswers.Proofs.Retrieval.Tenants
import GroundedAnswers.Proofs.Retrieval.Variants
import GroundedAnswers.Proofs.Retrieval.Wording
import GroundedAnswers.Proofs.Retrieval.Yielding
import GroundedAnswers.Proofs.Retrieval.Zoom
import GroundedAnswers.Proofs.Scripted.Replies
import GroundedAnswers.Proofs.Service.Embeddings
import GroundedAnswers.Proofs.Stream.Counts
import GroundedAnswers.Proofs.Stream.Cuts
import GroundedAnswers.Proofs.Stream.Lines
import GroundedAnswers.Proofs.Stream.Reading
import GroundedAnswers.Proofs.Stream.Receiving
import GroundedAnswers.Proofs.StructuredOutput.Wrapping
import GroundedAnswers.Proofs.Task.Alike
import GroundedAnswers.Proofs.Task.AlikeFanOut
import GroundedAnswers.Proofs.Task.Ensures
import GroundedAnswers.Proofs.Task.EnsuresFanOut
import GroundedAnswers.Proofs.Task.Gauge
import GroundedAnswers.Proofs.Task.Rules
import GroundedAnswers.Proofs.Task.Running
import GroundedAnswers.Proofs.Task.Settles
import GroundedAnswers.Proofs.Task.Together
import GroundedAnswers.Proofs.Task.Waits
import GroundedAnswers.Proofs.Task.Yields
import GroundedAnswers.Proofs.Task.YieldsFanOut
import GroundedAnswers.Proofs.Task.Zoom
import GroundedAnswers.Proofs.Text.Decoding
import GroundedAnswers.Proofs.Text.Trimming
import GroundedAnswers.Proofs.Text.Vocabulary
import GroundedAnswers.Proofs.Text.Words
import GroundedAnswers.Proofs.Trace.Finishing
import GroundedAnswers.Proofs.Trace.History
import GroundedAnswers.Proofs.Trace.Log
import GroundedAnswers.Proofs.Trace.Recording
import GroundedAnswers.Retrieval.Document
import GroundedAnswers.Retrieval.Embedder
import GroundedAnswers.Retrieval.Rephrasing
import GroundedAnswers.Retrieval.Requests
import GroundedAnswers.Retrieval.Reranking
import GroundedAnswers.Retrieval.Score
import GroundedAnswers.Retrieval.Settings
import GroundedAnswers.Retrieval.Store
import GroundedAnswers.Retrieval.Task
import GroundedAnswers.Scripted.Backend
import GroundedAnswers.Scripted.Description
import GroundedAnswers.Scripted.Store
import GroundedAnswers.Scripted.Transport
import GroundedAnswers.Scripted.World
import GroundedAnswers.Service.Anthropic
import GroundedAnswers.Service.Http
import GroundedAnswers.Service.Ollama
import GroundedAnswers.Service.OpenAi
import GroundedAnswers.Stream.Basic
import GroundedAnswers.Stream.Body
import GroundedAnswers.Stream.Event
import GroundedAnswers.Stream.Lines
import GroundedAnswers.Stream.ServerSent
import GroundedAnswers.StructuredOutput
import GroundedAnswers.Task.Basic
import GroundedAnswers.Task.FanOut
import GroundedAnswers.Text.Alphanumeric
import GroundedAnswers.Text.Blank
import GroundedAnswers.Text.CodePoints
import GroundedAnswers.Text.LowerCase
import GroundedAnswers.Text.Quoted
import GroundedAnswers.Text.Runs
import GroundedAnswers.Text.Search
import GroundedAnswers.Text.Terms
import GroundedAnswers.Text.Utf8
import GroundedAnswers.Text.Width
import GroundedAnswers.Time.Duration
import GroundedAnswers.Time.Moment
import GroundedAnswers.Trace.Recorder
import GroundedAnswers.Trace.Span
import GroundedAnswers.Trace.Spanned
import GroundedAnswers.Windows
