import SheetSearch.Http.Message
import SheetSearch.Url.Reader

namespace SheetSearch.Http

/-- Characters that a URL allows in a host and the head of a request does not. -/
def unsendable : List Char :=
  ['"', '\x60', '\x7b', '\x7d']

def webSchemes : List String :=
  ["http", "https"]

def isSendable (url : Url) : Bool :=
  webSchemes.contains (String.ofList url.scheme) &&
    url.hostChars.all fun c => !unsendable.contains c

/-- No request is answered. The complaint shows the URL, without user name and password. -/
def offline (r : Request) : Delivery :=
  .error ((if isSendable r.url then "error sending request" else "builder error") ++ " for url (" ++
    r.url.withoutCredentials.render ++ ")")

end SheetSearch.Http
