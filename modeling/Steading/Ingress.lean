import Steading.Cluster
import Steading.Text.Blank
import Steading.Text.Quoted
import Steading.Url.Reader

/-!
# Looking up the ingress address

A service on the network answers a request with the address it came from. Its answer counts if it
succeeded and holds nothing but an address, which is then taken as it is written.
-/

namespace Steading

/-- What came of asking the service. -/
inductive IngressReply
  | unreachable
  /-- The status and as much of the body as came before the connection ended. -/
  | received (status : Nat) (body : String) (complete : Bool)
  deriving DecidableEq, Inhabited

/-- The phrase that goes with a status. -/
def reasonPhrase : Nat → Option String
  | 100 => some "Continue"
  | 101 => some "Switching Protocols"
  | 102 => some "Processing"
  | 200 => some "OK"
  | 201 => some "Created"
  | 202 => some "Accepted"
  | 203 => some "Non Authoritative Information"
  | 204 => some "No Content"
  | 205 => some "Reset Content"
  | 206 => some "Partial Content"
  | 207 => some "Multi-Status"
  | 208 => some "Already Reported"
  | 226 => some "IM Used"
  | 300 => some "Multiple Choices"
  | 301 => some "Moved Permanently"
  | 302 => some "Found"
  | 303 => some "See Other"
  | 304 => some "Not Modified"
  | 305 => some "Use Proxy"
  | 307 => some "Temporary Redirect"
  | 308 => some "Permanent Redirect"
  | 400 => some "Bad Request"
  | 401 => some "Unauthorized"
  | 402 => some "Payment Required"
  | 403 => some "Forbidden"
  | 404 => some "Not Found"
  | 405 => some "Method Not Allowed"
  | 406 => some "Not Acceptable"
  | 407 => some "Proxy Authentication Required"
  | 408 => some "Request Timeout"
  | 409 => some "Conflict"
  | 410 => some "Gone"
  | 411 => some "Length Required"
  | 412 => some "Precondition Failed"
  | 413 => some "Payload Too Large"
  | 414 => some "URI Too Long"
  | 415 => some "Unsupported Media Type"
  | 416 => some "Range Not Satisfiable"
  | 417 => some "Expectation Failed"
  | 418 => some "I'm a teapot"
  | 421 => some "Misdirected Request"
  | 422 => some "Unprocessable Entity"
  | 423 => some "Locked"
  | 424 => some "Failed Dependency"
  | 425 => some "Too Early"
  | 426 => some "Upgrade Required"
  | 428 => some "Precondition Required"
  | 429 => some "Too Many Requests"
  | 431 => some "Request Header Fields Too Large"
  | 451 => some "Unavailable For Legal Reasons"
  | 500 => some "Internal Server Error"
  | 501 => some "Not Implemented"
  | 502 => some "Bad Gateway"
  | 503 => some "Service Unavailable"
  | 504 => some "Gateway Timeout"
  | 505 => some "HTTP Version Not Supported"
  | 506 => some "Variant Also Negotiates"
  | 507 => some "Insufficient Storage"
  | 508 => some "Loop Detected"
  | 510 => some "Not Extended"
  | 511 => some "Network Authentication Required"
  | _ => none

def statusText (status : Nat) : String :=
  toString status ++ " " ++ (reasonPhrase status).getD "<unknown status code>"

/-- A mark of the byte order in front of a text is no part of it. -/
def withoutByteOrderMark (s : String) : String :=
  match s.toList with
  | c :: cs => if c = Char.ofNat 0xFEFF then String.ofList cs else s
  | [] => s

/-- The text of the URL that a request goes to, or what is wrong with a text as a URL. -/
def requestedUrl (url : String) : Except String String :=
  match Url.ofText? url with
  | none => .error "builder error"
  | some u =>
    let u := u.withoutCredentials
    if u.isRequestable then .ok u.text
    else .error ("builder error for url (" ++ u.text ++ ")")

/-- The address in a reply to a request, which was made for a URL as it was given. -/
def addressIn (url requested : String) : IngressReply → Except ClusterError String
  | .unreachable =>
    .error (.ingress ("GET " ++ url ++ ": error sending request for url (" ++ requested ++ ")"))
  | .received status body complete =>
    if status < 200 || 299 < status then
      .error (.ingress ("GET " ++ url ++ ": status " ++ statusText status))
    else if !complete then
      .error (.ingress "reading body: error decoding response body")
    else
      let address := Text.trim (withoutByteOrderMark body)
      if Address.isAddress address then .ok address
      else .error (.ingress ("not an IP address: " ++ Text.quoted address))

/-- The address that the service at a URL answers with, if it can be asked and replies. -/
def ingressAddress (url : String) (reply : IngressReply) : Except ClusterError String :=
  match requestedUrl url with
  | .ok requested => addressIn url requested reply
  | .error fault => .error (.ingress ("GET " ++ url ++ ": " ++ fault))

end Steading
