import Gatehouse.Text.Markup
import Gatehouse.Value.Printer

namespace Gatehouse

inductive Denial where
  | notFound
  | notAllowed
  | tooLarge
  /-- What was asked for stands at another place for good. -/
  | moved (location : String)
  /-- A lasting connection was asked for where there is none. -/
  | wrongProtocol
  /-- The site is called by a name that is none. -/
  | badName
  /-- The site does not go by this name. -/
  | untrusted (host : String)
  deriving DecidableEq, Repr

namespace Denial

def status : Denial → Nat
  | .notFound => 404
  | .notAllowed => 405
  | .tooLarge => 413
  | .moved _ => 308
  | .wrongProtocol => 400
  | .badName => 400
  | .untrusted _ => 400

def title : Denial → String
  | .notFound => "Not Found"
  | .notAllowed => "Method Not Allowed"
  | .tooLarge => "Request Entity Too Large"
  | .moved _ => "Permanent Redirect"
  | .wrongProtocol => "Bad Request"
  | .badName => "Bad Request"
  | .untrusted _ => "Bad Request"

def badRequest : String :=
  "The browser (or proxy) sent a request that this server could not understand."

def reason : Denial → String
  | .notFound =>
    "The requested URL was not found on the server. If you entered the URL manually please " ++
      "check your spelling and try again."
  | .notAllowed => "The method is not allowed for the requested URL."
  | .tooLarge => "The data value transmitted exceeds the capacity limit."
  | .moved location => location
  | .wrongProtocol => badRequest
  | .badName => badRequest
  | .untrusted host => "Host " ++ String.ofList (Quoted.text host.toList) ++ " is not trusted."

/-- The line that stands for the denial where it is told as a fault. -/
def message (d : Denial) : String := toString d.status ++ " " ++ d.title ++ ": " ++ d.reason

/-- Whether the request itself is to blame, and not what it asks for. -/
def isBadRequest (d : Denial) : Bool := d.status = 400

/-- A short page that tells the reason. -/
def page (d : Denial) : String :=
  let head := toString d.status ++ " " ++ d.title
  "<!doctype html>\n<html lang=en>\n<title>" ++ head ++ "</title>\n<h1>" ++ d.title ++
    "</h1>\n<p>" ++ String.ofList (Markup.escape d.reason.toList) ++ "</p>\n"

end Denial

end Gatehouse
