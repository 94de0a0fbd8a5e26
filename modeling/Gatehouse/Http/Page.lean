import Gatehouse.Http.Endpoint
import Gatehouse.Text.Markup

namespace Gatehouse

inductive Segment where
  | markup (s : String)
  | hole (s : String)
  deriving DecidableEq, Repr

def Segment.render : Segment → List Char
  | .markup s => s.toList
  | .hole s => Markup.escape s.toList

/-- A message in a box of its own. -/
structure Notice where
  style : String
  message : String
  deriving DecidableEq, Repr

inductive Content where
  /-- The login form, with what went wrong, the target to be sent along, and the name filled in. -/
  | login (error target : Option String) (username : String)
  | dashboard (username : String)
  deriving DecidableEq, Repr

structure Page where
  /-- The path under which the site stands. -/
  root : String
  notices : List Notice
  content : Content
  deriving DecidableEq, Repr

def Notice.segments (n : Notice) : List Segment :=
  [.markup "\n                <div class=\"", .hole n.style, .markup "\" role=\"alert\">",
   .hole n.message, .markup "</div>\n            "]

namespace Content

def title : Content → String
  | .login .. => "Sign in"
  | .dashboard _ => "Dashboard"

def errorSegments : Option String → List Segment
  | none => []
  | some error =>
    [.markup "\n    <div class=\"alert alert-danger\" role=\"alert\">", .hole error,
     .markup "</div>\n"]

def targetSegments : Option String → List Segment
  | none => []
  | some target =>
    [.markup "\n        <input type=\"hidden\" name=\"redirect_to\" value=\"", .hole target,
     .markup "\">\n    "]

def usernameMarkup : String :=
  "\n    <label for=\"session_username\">Username</label>\n" ++
  "    <input type=\"text\" id=\"session_username\" name=\"session[username]\"\n" ++
  "           value=\""

def passwordMarkup : String :=
  "\" autocomplete=\"username\" required>\n" ++
  "    <label for=\"session_password\">Password</label>\n" ++
  "    <input type=\"password\" id=\"session_password\" name=\"session[password]\"\n" ++
  "           autocomplete=\"current-password\" required>\n" ++
  "    <button type=\"submit\" class=\"btn btn-primary\">Sign in</button>\n" ++
  "</form>\n"

def logoutMarkup : String :=
  "\">\n    <button type=\"submit\" class=\"btn btn-secondary\">Log out</button>\n</form>\n"

/-- A form leads to a path under the root of the site. -/
def formSegments (root path : String) : List Segment :=
  [.markup "<form method=\"post\" action=\"", .hole (root ++ path)]

def segments (root : String) : Content → List Segment
  | .login error target username =>
    [.markup "\n<h1>Sign in</h1>\n"] ++ errorSegments error ++ [.markup "\n"] ++
      formSegments root Endpoint.loginForm.path ++ [.markup "\">\n    "] ++
      targetSegments target ++
      [.markup usernameMarkup, .hole username, .markup passwordMarkup]
  | .dashboard username =>
    [.markup "\n<h1>Dashboard</h1>\n<p>Signed in as <strong>", .hole username,
     .markup "</strong>.</p>\n"] ++
      formSegments root Endpoint.logout.path ++ [.markup logoutMarkup]

end Content

namespace Page

def headMarkup : String :=
  "<!DOCTYPE html>\n<html lang=\"en\">\n<head>\n" ++
  "    <meta charset=\"utf-8\">\n" ++
  "    <meta name=\"viewport\" content=\"width=device-width, initial-scale=1\">\n" ++
  "    <title>"

def bodyMarkup : String :=
  "</title>\n</head>\n<body>\n    <main class=\"container\">\n        \n            "

def footMarkup : String := "\n    </main>\n</body>\n</html>"

def segments (p : Page) : List Segment :=
  [.markup headMarkup, .markup p.content.title, .markup bodyMarkup] ++
    p.notices.flatMap Notice.segments ++ [.markup "\n        \n        "] ++
    p.content.segments p.root ++ [.markup footMarkup]

def render (p : Page) : String := String.ofList (p.segments.flatMap Segment.render)

end Page

end Gatehouse
