import ApiPlatform.Text.Quoted
import ApiPlatform.Url.Basic
/-!
# The admin portal endpoint

A gateway finds its admin portal under one URL that carries the access token as its user.
-/

namespace ApiPlatform

/-- The URL of an admin portal and the token that opens it. -/
structure AdminPortalCredentials where
  url : String
  accessToken : String
  deriving DecidableEq

/-- Why credentials give no endpoint. -/
inductive EndpointError where
  | unreadableUrl (url : String) (source : UrlError)
  /-- The URL has no host, so it has no place for a user. -/
  | withoutHost (url : String)
  deriving DecidableEq

namespace AdminPortalCredentials

/-- The credentials in words, without the token. -/
def redacted (c : AdminPortalCredentials) : String :=
  "AdminPortalCredentials \x7b url: " ++ Text.quote c.url ++
    ", access_token: \"<redacted>\" \x7d"

/-- The URL with the token as its user. -/
def endpointUrl (c : AdminPortalCredentials) : Except EndpointError Url :=
  match Url.parse c.url with
  | .error e => .error (.unreadableUrl c.url e)
  | .ok u =>
    match u.withUsername c.accessToken with
    | some u => .ok u
    | none => .error (.withoutHost c.url)

/-- The endpoint in written form. -/
def endpoint (c : AdminPortalCredentials) : Except EndpointError String :=
  c.endpointUrl.map Url.text

end AdminPortalCredentials

end ApiPlatform
