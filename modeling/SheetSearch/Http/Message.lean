import SheetSearch.Text.Pieces
import SheetSearch.Url.Basic

/-!
Requests and responses. Header names are compared without regard to the case of ASCII letters.
-/

namespace SheetSearch.Http

abbrev Headers := List (String × String)

def Headers.find? (headers : Headers) (name : String) : Option String :=
  (List.find? (fun h => Text.sameIgnoringCase h.1 name) headers).map Prod.snd

structure Request where
  url : Url
  headers : Headers
deriving DecidableEq, Repr

structure Response where
  status : UInt16
  headers : Headers
  body : List UInt8
deriving DecidableEq, Repr

namespace Response

def header? (r : Response) (name : String) : Option String :=
  Headers.find? r.headers name

def contentType? (r : Response) : Option String :=
  r.header? "content-type"

def etag? (r : Response) : Option String :=
  r.header? "etag"

/-- Only one status means success. -/
def isSuccess (r : Response) : Bool :=
  r.status == 200

end Response

abbrev Delivery := Except String Response

end SheetSearch.Http
