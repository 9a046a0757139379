/-
Answers of a service.

* `Answer`: status, headers and body.
* `Answer.ofBody`: a body with its length and its kind in the headers.
* `Answer.app`: the application that gives an answer in two messages.
* `Answer.guard`: what goes out if everything else failed before any message.
-/
import AccessLog.Exchange.App
import AccessLog.Text.Json

namespace AccessLog

/-- An answer to a request. -/
structure Answer where
  status : Nat
  headers : List (Text × Text)
  body : List UInt8
deriving DecidableEq

namespace Answer

/-- The header that tells the length of a body. -/
def lengthHeader (body : List UInt8) : Text × Text :=
  ("content-length", .ofNat body.length)

/-- A body with its length and its kind in the headers, after those given. -/
def ofBody (status : Nat) (given : List (Text × Text)) (kind text : Text) :
    Except EncodingFault Answer := do
  let body ← text.toUtf8
  return ⟨status, given ++ [lengthHeader body, ("content-type", kind)], body⟩

/-- A value as JSON. -/
def ofValue (status : Nat) (given : List (Text × Text)) (v : Value) :
    Except EncodingFault Answer :=
  ofBody status given "application/json" (JsonStyle.body.written v)

/-- A page for people. -/
def ofPage (text : Text) : Except EncodingFault Answer :=
  ofBody 200 [] "text/html; charset=utf-8" text

/-- A value with what went wrong. -/
def refusal (status : Nat) (given : List (Text × Text)) (detail : Text) :
    Except EncodingFault Answer :=
  ofValue status given (.dict [("detail", .text detail)])

/-- The same page is somewhere else. -/
def redirect (location : Text) : Answer where
  status := 307
  headers := [lengthHeader [], ("location", location)]
  body := []

/-- A header as it is handed over. -/
def wireHeader (header : Text × Text) : Except EncodingFault Value := do
  return .tuple [.bytes (← header.1.toLatin1), .bytes (← header.2.toLatin1)]

/-- The application that gives an answer in two messages. -/
def app (a : Answer) : App :=
  match a.headers.mapM wireHeader with
  | .error fault => .done (.error (.encoding fault))
  | .ok headers =>
    .send [("type", "http.response.start"), ("status", .int a.status), ("headers", .list headers)]
      fun
      | .error e => .done (.error e)
      | .ok () => .send [("type", "http.response.body"), ("body", .bytes a.body)] .done

/-- What goes out if everything else failed before any message. -/
def guard : Answer where
  status := 500
  headers := []
  body := "Internal Server Error".toUTF8.toList

end Answer

end AccessLog
