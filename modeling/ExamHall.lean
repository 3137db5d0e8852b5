import ExamHall.Api.Endpoint
import ExamHall.Api.Error
import ExamHall.Api.Handle
import ExamHall.Api.Refusal
import ExamHall.Api.Server
import ExamHall.Assignment.AccessCode
import ExamHall.Attempt.Error
import ExamHall.Attempt.Progress
import ExamHall.Attempt.Rules
import ExamHall.Binary64
import ExamHall.Calendar.Accepted
import ExamHall.Calendar.Instant
import ExamHall.Caller
import ExamHall.Decimal.Arithmetic
import ExamHall.Decimal.Basic
import ExamHall.Decimal.Text
import ExamHall.Digest.Sha256
import ExamHall.Distinct
import ExamHall.Exam.Action
import ExamHall.Exam.Answering
import ExamHall.Exam.Assigning
import ExamHall.Exam.Generating
import ExamHall.Exam.Grading
import ExamHall.Exam.Starting
import ExamHall.Exam.Upkeep
import ExamHall.Generation.AnswerKey
import ExamHall.Generation.Apportion
import ExamHall.Generation.Arrangement
import ExamHall.Generation.Error
import ExamHall.Grading.Outcome
import ExamHall.Grading.Rules
import ExamHall.Grading.Totals
import ExamHall.Http.Body
import ExamHall.Http.Message
import ExamHall.Http.Origin
import ExamHall.Http.Query
import ExamHall.Json.Basic
import ExamHall.Json.Cursor
import ExamHall.Json.Decode
import ExamHall.Json.Lexeme
import ExamHall.Json.Reader
import ExamHall.Json.Shape
import ExamHall.Json.Skip
import ExamHall.Maintenance.Bank
import ExamHall.Maintenance.Sittings
import ExamHall.Maintenance.TableView
import ExamHall.Maintenance.Tables
import ExamHall.Power
import ExamHall.Proofs.Api.Effect
import ExamHall.Proofs.Api.Handling
import ExamHall.Proofs.Api.Operations
import ExamHall.Proofs.Api.Responding
import ExamHall.Proofs.Api.StudentEffects
import ExamHall.Proofs.Assignment.AccessCode
import ExamHall.Proofs.Attempt.Dealt
import ExamHall.Proofs.Attempt.Frame
import ExamHall.Proofs.Attempt.Kept
import ExamHall.Proofs.Attempt.LifeCycle
import ExamHall.Proofs.Attempt.Marks
import ExamHall.Proofs.Attempt.Order
import ExamHall.Proofs.Attempt.Pending
import ExamHall.Proofs.Attempt.Policy
import ExamHall.Proofs.Attempt.Scores
import ExamHall.Proofs.Attempt.Sheet
import ExamHall.Proofs.Attempt.Trace
import ExamHall.Proofs.Calendar.Accepted
import ExamHall.Proofs.Calendar.Civil
import ExamHall.Proofs.Decimal.Calculation
import ExamHall.Proofs.Decimal.Order
import ExamHall.Proofs.Decimal.Quotient
import ExamHall.Proofs.Decimal.Reading
import ExamHall.Proofs.Decimal.Rounding
import ExamHall.Proofs.Decimal.Value
import ExamHall.Proofs.Exam.Action
import ExamHall.Proofs.Exam.Admission
import ExamHall.Proofs.Exam.Announcing
import ExamHall.Proofs.Exam.Answering
import ExamHall.Proofs.Exam.Authoring
import ExamHall.Proofs.Exam.Batching
import ExamHall.Proofs.Exam.ClosingOnce
import ExamHall.Proofs.Exam.Completing
import ExamHall.Proofs.Exam.Deadline
import ExamHall.Proofs.Exam.Drafting
import ExamHall.Proofs.Exam.Enrolling
import ExamHall.Proofs.Exam.Expiring
import ExamHall.Proofs.Exam.Frozen
import ExamHall.Proofs.Exam.Generating
import ExamHall.Proofs.Exam.Grading
import ExamHall.Proofs.Exam.Interleaving
import ExamHall.Proofs.Exam.Keeping
import ExamHall.Proofs.Exam.Listing
import ExamHall.Proofs.Exam.Locality
import ExamHall.Proofs.Exam.Marking
import ExamHall.Proofs.Exam.Meeting
import ExamHall.Proofs.Exam.Recording
import ExamHall.Proofs.Exam.Recounting
import ExamHall.Proofs.Exam.Recovering
import ExamHall.Proofs.Exam.Registering
import ExamHall.Proofs.Exam.Reproducing
import ExamHall.Proofs.Exam.Reviewing
import ExamHall.Proofs.Exam.Saving
import ExamHall.Proofs.Exam.ScopeGeneration
import ExamHall.Proofs.Exam.Scoping
import ExamHall.Proofs.Exam.Settling
import ExamHall.Proofs.Exam.Sitting
import ExamHall.Proofs.Exam.StartOutcome
import ExamHall.Proofs.Exam.Starting
import ExamHall.Proofs.Exam.Storing
import ExamHall.Proofs.Exam.Sweeping
import ExamHall.Proofs.Exam.Upkeep
import ExamHall.Proofs.Exam.Violating
import ExamHall.Proofs.Exam.Working
import ExamHall.Proofs.Generation.Apportion
import ExamHall.Proofs.Generation.LargestRemainder
import ExamHall.Proofs.Generation.Layout
import ExamHall.Proofs.Generation.Percentages
import ExamHall.Proofs.Generation.PrintedKey
import ExamHall.Proofs.Generation.Selection
import ExamHall.Proofs.Generation.Storable
import ExamHall.Proofs.Grading.Meaning
import ExamHall.Proofs.Grading.Outcomes
import ExamHall.Proofs.Grading.PartialCredit
import ExamHall.Proofs.Grading.Reordering
import ExamHall.Proofs.Grading.Totals
import ExamHall.Proofs.Lists
import ExamHall.Proofs.Question.ClientAnswer
import ExamHall.Proofs.Question.RoundTrip
import ExamHall.Proofs.Question.Stored
import ExamHall.Proofs.Random.Shuffling
import ExamHall.Proofs.Response.Secrecy
import ExamHall.Proofs.Session.AccessCodes
import ExamHall.Proofs.Session.Admission
import ExamHall.Proofs.Session.Assigning
import ExamHall.Proofs.Session.Batching
import ExamHall.Proofs.Session.Calls
import ExamHall.Proofs.Session.Deadline
import ExamHall.Proofs.Session.DeferredGrading
import ExamHall.Proofs.Session.Entitlement
import ExamHall.Proofs.Session.Events
import ExamHall.Proofs.Session.FrozenTests
import ExamHall.Proofs.Session.HandScores
import ExamHall.Proofs.Session.History
import ExamHall.Proofs.Session.Issuing
import ExamHall.Proofs.Session.LifeCycle
import ExamHall.Proofs.Session.Paging
import ExamHall.Proofs.Session.Refusals
import ExamHall.Proofs.Session.Reports
import ExamHall.Proofs.Session.Serving
import ExamHall.Proofs.Session.Stalling
import ExamHall.Proofs.Session.StoredTests
import ExamHall.Proofs.Session.Sweeping
import ExamHall.Proofs.Session.Violations
import ExamHall.Proofs.Settings.Loading
import ExamHall.Proofs.Steps
import ExamHall.Proofs.Store.Bank
import ExamHall.Proofs.Store.Change
import ExamHall.Proofs.Store.Columns
import ExamHall.Proofs.Store.Enforced
import ExamHall.Proofs.Store.Lawful
import ExamHall.Proofs.Store.Reading
import ExamHall.Proofs.Store.Rows
import ExamHall.Proofs.Store.Writing
import ExamHall.Proofs.Text.Bytes
import ExamHall.Proofs.Text.Case
import ExamHall.Proofs.Text.Numeral
import ExamHall.Proofs.Text.Pieces
import ExamHall.Question.Answer
import ExamHall.Question.Content
import ExamHall.Question.Payload
import ExamHall.Question.Stored
import ExamHall.Random.ChaCha
import ExamHall.Random.Shuffle
import ExamHall.Records
import ExamHall.Request.Answers
import ExamHall.Request.Assignment
import ExamHall.Request.Fault
import ExamHall.Request.Generation
import ExamHall.Response.Assignment
import ExamHall.Response.Attempt
import ExamHall.Response.Generation
import ExamHall.Session
import ExamHall.Settings.Basic
import ExamHall.Settings.Load
import ExamHall.Store.Answers
import ExamHall.Store.Assignments
import ExamHall.Store.Attempts
import ExamHall.Store.Basic
import ExamHall.Store.Column
import ExamHall.Store.Fault
import ExamHall.Store.Questions
import ExamHall.Store.Tests
import ExamHall.Text.Bytes
import ExamHall.Text.Case
import ExamHall.Text.CaseTable
import ExamHall.Text.Numeral
import ExamHall.Text.Pieces
import ExamHall.Token
import ExamHall.Token.Terms
import ExamHall.Vocabulary
