import FirewallOrder.Http.Message
/-!
# Connections

A connection sends requests one after another and may keep a jar of cookies: what a reply sets is
sent with every later request. For which path, domain or time a cookie is set is not looked at.
Credentials in a URL are not part of what is asked for, and only URLs of the web can be asked for at
all.

One request is one call of the library that speaks HTTP, and its answer is what the library returns.
If the library is sent on to another URL on the way, that is part of how the answer comes about.
-/

namespace FirewallOrder.Http

/-- Cookies by name, in the order in which they were first set. -/
structure CookieJar where
  cookies : List (String × String)
  deriving DecidableEq, Repr

namespace CookieJar

def empty : CookieJar := ⟨[]⟩

/-- The jar with one cookie set. -/
def set (jar : CookieJar) (name value : String) : CookieJar :=
  if jar.cookies.any fun c => c.1 == name then
    ⟨jar.cookies.map fun c => if c.1 == name then (name, value) else c⟩
  else ⟨jar.cookies ++ [(name, value)]⟩

/-- The name and the value of a cookie that a header sets: what stands before the first
semicolon. -/
def cookie? (header : String) : Option (String × String) :=
  let pair := header.toList.takeWhile (· != ';')
  match pair.span (· != '=') with
  | (_, []) => none
  | (name, _ :: value) =>
    some (String.ofList (Text.trimChars name), String.ofList (Text.trimChars value))

/-- The jar after a reply. -/
def store (jar : CookieJar) (r : Reply) : CookieJar :=
  ((r.headers? "set-cookie").filterMap cookie?).foldl (fun jar c => jar.set c.1 c.2) jar

/-- The cookies as a request carries them. -/
def header? (jar : CookieJar) : Option String :=
  if jar.cookies.isEmpty then none
  else some ("; ".intercalate (jar.cookies.map fun c => c.1 ++ "=" ++ c.2))

end CookieJar

/-- What a connection remembers between requests. -/
structure Connection where
  jar : Option CookieJar
  deriving DecidableEq, Repr

namespace Connection

/-- The connection after a reply. -/
def after (c : Connection) (r : Reply) : Connection := ⟨c.jar.map (·.store r)⟩

/-- Sends a request. -/
def send (c : Connection) (method : Method) (url : Url) (body token : Option String) :
    Exchange (Answer × Connection) :=
  let url := url.withoutCredentials
  if url.isWeb then
    .ask ⟨method, url, body, token, c.jar.bind (·.header?)⟩ fun answer =>
      .done (answer,
        match answer with
        | .ok reply => c.after reply
        | .error _ => c)
  else .done (.error (.unsupported url.text), c)

end Connection

end FirewallOrder.Http
