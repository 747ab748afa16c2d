import ChainWatch.Sim.Fiber
import ChainWatch.Json.Value
import ChainWatch.Url.Parse

/-!
# Requests over HTTP

A backing service is reached by HTTP requests (`HttpRequest`): a `GET` with an `Accept` header
for a beacon node, a `POST` of a JSON body for an execution node. A `Transport` carries a request
and gives back the response, or fails with the text of the HTTP stack (`SendError`):

* a URL that does not read as a URL is refused before anything is sent (`builder error`), and so
  is one without a host or with a scheme other than `http` and `https`, naming the URL;
* a request that reaches no server fails naming the URL as read, in its normal form.

`Transport.unreachable` is the link on which no connection is ever made, such as a host whose
loopback interface is down: every well-formed request fails to be sent.
-/

namespace ChainWatch

/-- The methods used. -/
inductive HttpMethod where
  | get
  | post
  deriving DecidableEq

/-- The name of a method. -/
def HttpMethod.name : HttpMethod → String
  | .get => "GET"
  | .post => "POST"

/-- A request: the method, the URL as given, the `Accept` and `Content-Type` headers, the JSON
body, and the milliseconds after which the request is abandoned. -/
structure HttpRequest where
  method : HttpMethod
  url : String
  accept : Option String
  contentType : Option String
  body : Option Json
  timeoutMs : Nat

/-- A response: its status code and its body. -/
structure HttpResponse where
  status : Nat
  body : String

/-- Why a request got no response. -/
inductive SendError where
  /-- The request could not be built, for the URL as read if it was read at all. -/
  | builder (url : Option String)
  /-- The request could not be sent to the URL. -/
  | send (url : String)
  /-- No response came in time from the URL. -/
  | timeout (url : String)

/-- The text of a failure to send. -/
def SendError.message : SendError → String
  | .builder none => "builder error"
  | .builder (some url) => "builder error for url (" ++ url ++ ")"
  | .send url => "error sending request for url (" ++ url ++ ")"
  | .timeout url => "error sending request for url (" ++ url ++ ")"

/-- How requests travel: each one is answered or fails. -/
abbrev Transport (σ : Type) := HttpRequest → Fiber σ (Except SendError HttpResponse)

/-- The URL a request goes to, in normal form, or why no request can be built for it. -/
def requestUrl (url : String) : Except SendError String :=
  match Url.parse url with
  | .error _ => .error (.builder none)
  | .ok u =>
    if u.host.isNone || !(u.scheme = "http" || u.scheme = "https") then .error (.builder (some u.text))
    else .ok u.text

/-- The link on which no connection is made: every request that can be built fails to be sent. -/
def Transport.unreachable : Transport σ := fun req =>
  .done (.error (match requestUrl req.url with
    | .ok url => .send url
    | .error e => e))

end ChainWatch
