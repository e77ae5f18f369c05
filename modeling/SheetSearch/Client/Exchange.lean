import SheetSearch.Http.Message
import SheetSearch.Response.Basic

/-!
One call of the service: it is refused before anything is sent, or it sends one request and makes its
result of what comes back.
-/

namespace SheetSearch

open Http (Delivery Request Response)
open Json (Shape Fault)

inductive ClientError where
  | transport (message : String)
  | api (status : UInt16) (message : String)
  | decode (fault : Fault)
  | invalidRequest (message : String)
  | invalidUrl (message : String)
deriving DecidableEq, Repr

namespace ClientError

def message : ClientError → String
  | transport m => "HTTP transport error: " ++ m
  | api status m => "API error (" ++ toString status.toNat ++ "): " ++ m
  | decode f => "Failed to decode response: " ++ f.message
  | invalidRequest m => "Invalid request: " ++ m
  | invalidUrl m => "Invalid URL: " ++ m

def status? : ClientError → Option UInt16
  | api status _ => some status
  | _ => none

def bodyShape : Shape :=
  .record "ErrorBody" <|
  .field "code" .required (.optional .u16) <|
  .field "message" .required (.optional .text) .none

def readBody (body : List UInt8) : Option UInt16 × Option String :=
  match bodyShape.decode body with
  | .ok ((code, message, ()) : Option UInt16 × Option String × Unit) => (code, message)
  | .error _ => (none, none)

/-- What the body does not tell is the status of the answer and a general message. -/
def ofResponse (r : Response) : ClientError :=
  let (code, message) := readBody r.body
  api (code.getD r.status) (message.getD "Unknown error")

end ClientError

abbrev Reply := Except ClientError Response

inductive Exchange (α : Type) where
  | refused (e : ClientError)
  | send (request : Request) (result : Reply → Except ClientError α)

namespace Exchange

def requests {α : Type} : Exchange α → List Request
  | refused _ => []
  | send r _ => [r]

def resultOf {α : Type} (transport : Request → Reply) : Exchange α → Except ClientError α
  | refused e => .error e
  | send r k => k (transport r)

/-- The result under a transport that has no errors but its own. -/
def result {α : Type} (transport : Request → Delivery) (x : Exchange α) : Except ClientError α :=
  x.resultOf fun r => (transport r).mapError .transport

def map {α β : Type} (f : α → β) : Exchange α → Exchange β
  | refused e => refused e
  | send r k => send r fun d => (k d).map f

theorem requests_map {α β : Type} (f : α → β) (x : Exchange α) :
    (x.map f).requests = x.requests := by
  cases x <;> rfl

def received : Reply → Except ClientError Response
  | .error e => .error e
  | .ok r => if r.isSuccess then .ok r else .error (ClientError.ofResponse r)

def json (α : Type) [Shaped α] (url : Url) : Exchange α :=
  send ⟨url, [("Accept", "application/json")]⟩ fun d =>
    match received d with
    | .error e => .error e
    | .ok r =>
      match Shaped.decode α r.body with
      | .ok a => .ok a
      | .error f => .error (.decode f)

def raw (url : Url) : Exchange Response :=
  send ⟨url, []⟩ received

def onUrl {α : Type} (url : Except ClientError Url) (f : Url → Exchange α) : Exchange α :=
  match url with
  | .ok u => f u
  | .error e => refused e

end Exchange

end SheetSearch
