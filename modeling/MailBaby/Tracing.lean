import MailBaby.Lib.Encoding
import MailBaby.Lib.Unmarshal
import MailBaby.Queue.Message

/-!
# Tracing

Spans, the contexts that carry them, and the header `traceparent` in which a message takes a span from a
producer to a consumer. Exporters, attributes, events and times of spans are left out.
-/

namespace MailBaby.Tracing

open Lib

structure Span where
  traceID : String
  spanID : String
  parentSpanID : String := ""
  name : String
  status : String := "OK"

/-- The values that a context holds: the span, and the two identifiers that the logger reads. -/
structure Context where
  span : Option Span := none
  loggerTraceID : Option String := none
  loggerSpanID : Option String := none

def background : Context := {}

def contextWithSpan (ctx : Context) (s : Span) : Context :=
  { ctx with span := some s, loggerTraceID := some s.traceID, loggerSpanID := some s.spanID }

def spanFromContext (ctx : Context) : Option Span := ctx.span

structure Random where
  trace : Bytes
  span : Bytes
  length_trace : trace.length = 16
  length_span : span.length = 8

def generateTraceID (rand : Random) : String := String.ofList (Hex.encode rand.trace)

def generateSpanID (rand : Random) : String := String.ofList (Hex.encode rand.span)

def startSpan (rand : Random) (ctx : Context) (name : String) : Context × Span :=
  let parent := spanFromContext ctx
  let s : Span :=
    { traceID := match parent with
        | some parent => parent.traceID
        | none => generateTraceID rand
      spanID := generateSpanID rand
      parentSpanID := match parent with
        | some parent => parent.spanID
        | none => ""
      name := name }
  (contextWithSpan ctx s, s)

def headerTraceParent : String := "traceparent"

def traceParent (s : Span) : String := "00-" ++ s.traceID ++ "-" ++ s.spanID ++ "-01"

/-- A nil map of headers is `none`. -/
def injectHeaders (ctx : Context) (headers : Option Headers) : Option Headers :=
  match headers, spanFromContext ctx with
  | none, _ => none
  | some headers, none => some headers
  | some headers, some s => some (headers.insert headerTraceParent (traceParent s))

/-- The value of the header, under a name in another case if it is missing or empty. -/
def findTraceParent (order : RangeOrder (Σ _ : String, String)) (headers : Headers) : String :=
  match headers.lookup headerTraceParent with
  | some v => if v ≠ "" then v else fallback
  | none => fallback
where
  fallback : String :=
    match (order.arrange headers.entries).find? fun kv => equalFold kv.1 headerTraceParent with
    | some kv => kv.2
    | none => ""

def splitDash (s : String) : List String := (s.toList.splitOn '-').map String.ofList

/-- The lengths are those in bytes. -/
def parseTraceParent (tpHeader : String) : Option Span :=
  match splitDash tpHeader with
  | _ :: traceID :: spanID :: _ =>
    if (utf8 traceID.toList).length = 32 ∧ (utf8 spanID.toList).length = 16 then
      some { traceID := traceID, spanID := spanID, name := "remote_parent" }
    else none
  | _ => none

def extractHeaders (order : RangeOrder (Σ _ : String, String)) (ctx : Context) (headers : Option Headers) :
    Context :=
  match headers with
  | none => ctx
  | some headers =>
    let tpHeader := findTraceParent order headers
    if tpHeader = "" then ctx
    else match parseTraceParent tpHeader with
      | some s => contextWithSpan ctx s
      | none => ctx

/-! ### Contexts and chains -/

/-- A call that makes a context from another one. -/
inductive Build
  | startSpan (rand : Random) (name : String)
  | extractHeaders (order : RangeOrder (Σ _ : String, String)) (headers : Option Headers)

def Build.apply (ctx : Context) : Build → Context
  | startSpan rand name => (Tracing.startSpan rand ctx name).1
  | extractHeaders order headers => Tracing.extractHeaders order ctx headers

def build (calls : List Build) : Context := calls.foldl Build.apply background

/-- A step of a chain: a span is started, or a message carries the span to another context. -/
inductive Hop
  | startSpan (rand : Random) (name : String)
  | message (order : RangeOrder (Σ _ : String, String)) (headers : Headers) (consumer : Context)

def Hop.apply (ctx : Context) : Hop → Context
  | startSpan rand name => (Tracing.startSpan rand ctx name).1
  | message order headers consumer => extractHeaders order consumer (injectHeaders ctx (some headers))

def travel (ctx : Context) (hops : List Hop) : Context := hops.foldl Hop.apply ctx

end MailBaby.Tracing
