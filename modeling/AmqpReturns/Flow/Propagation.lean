import AmqpReturns.Flow.World

/-!
# Flow — trace contexts in headers

A trace context goes out as headers with lower-case names and long strings for values
(`Propagator.injected`), and is read back from headers by their exact names
(`World.extract`).  A value that is no UTF-8 is logged and counts as absent, and so does a value
of another kind.
-/

namespace AmqpReturns

/-- The header under which the caller's own context travels. -/
def callerKey : String := "Caller-Context"

/-- Sets a header of a trace context. -/
def Wire.Headers.setTrace (headers : Wire.Headers) (key value : String) : Wire.Headers :=
  headers.insert (Text.Lower.lower key) (.longString (Text.Utf8.encode value))

/-- The headers of a trace context: the propagator's pairs in order, then the caller's context. -/
def Propagator.injected (p : Propagator) (caller : Option String) : Wire.Headers :=
  (p.inject ++ caller.toList.map (callerKey, ·)).foldl
    (fun headers pair => headers.setTrace pair.1 pair.2) .empty

/-- The text of a fault of a header's value. -/
def Text.Utf8.Fault.inspect (f : Text.Utf8.Fault) : String :=
  let length := match f.errorLength with
    | some n => "Some(" ++ toString n ++ ")"
    | none => "None"
  "Utf8Error \x7b valid_up_to: " ++ toString f.validUpTo ++ ", error_len: " ++ length ++ " \x7d"

/-- What a header holds of a trace context, and the fault in it. -/
def Wire.Headers.trace? (headers : Wire.Headers) (key : String) :
    Option (Except Text.Utf8.Fault String) :=
  match headers.get? key with
  | some (.longString bytes) => some (Text.Utf8.decode? bytes)
  | _ => none

namespace World

variable {σ : Type}

/-- Reads one field of a trace context. -/
def extractField (w : World σ) (headers : Wire.Headers) (field : String) :
    Option String × World σ :=
  match headers.trace? field with
  | none => (none, w)
  | some (.ok text) => (some text, w)
  | some (.error fault) => (none, w.log .error ("Error decoding header value " ++ fault.inspect))

/-- Reads the fields of a trace context, in order. -/
def extractFields (headers : Wire.Headers) :
    List String → World σ → List (String × Option String) × World σ
  | [], w => ([], w)
  | field :: fields, w =>
    let (value, w) := w.extractField headers field
    let (values, w) := extractFields headers fields w
    ((field, value) :: values, w)

/-- Reads a trace context. -/
def extract (w : World σ) (headers : Wire.Headers) : TraceParent × World σ :=
  let (values, w) := extractFields headers w.propagator.fields w
  (⟨headers.keys, values⟩, w)

end World

end AmqpReturns
