import ApiPlatform.Gateway.Endpoint
import ApiPlatform.Proofs.Text.Utf8
import ApiPlatform.Proofs.Url.Percent
/-!
# The token in the endpoint

The endpoint is the URL of the portal with the token as its user; nothing else of the URL changes.
What a reader of the endpoint makes of its user information is the token if the URL has no password
and nothing in the token looks like an escaped byte, and something else otherwise.
-/

namespace ApiPlatform

namespace UrlAuthority

variable {a b : UrlAuthority}

/-- The user and the password in written form: what stands before the at sign. -/
def user (a : UrlAuthority) : String := a.username ++ (a.password.map (":" ++ ·)).getD ""

theorem userInfo_eq (a : UrlAuthority) :
    Url.userInfo a = if a.user = "" then "" else a.user ++ "@" := by
  unfold Url.userInfo user
  simp only [String.isEmpty_iff, Bool.and_eq_true, String.append_eq_empty_iff]

theorem user_eq_of_userInfo_eq (h : Url.userInfo a = Url.userInfo b) : a.user = b.user := by
  rw [userInfo_eq, userInfo_eq] at h
  split_ifs at h with ha hb hb
  · rw [ha, hb]
  · simp at h
  · simp at h
  · exact (String.append_left_inj _).1 h

end UrlAuthority

namespace Url

variable {u v : Url} {a b : UrlAuthority}

/-- Two URLs that differ in nothing but the user and the password. -/
structure SamePlace (u v : Url) : Prop where
  scheme : u.scheme = v.scheme
  host : u.authority.map (·.host) = v.authority.map (·.host)
  port : u.authority.map (·.port) = v.authority.map (·.port)
  path : u.path = v.path
  query : u.query = v.query
  fragment : u.fragment = v.fragment

theorem SamePlace.symm (h : u.SamePlace v) : v.SamePlace u :=
  ⟨h.scheme.symm, h.host.symm, h.port.symm, h.path.symm, h.query.symm, h.fragment.symm⟩

theorem SamePlace.trans {w : Url} (h : u.SamePlace v) (h' : v.SamePlace w) : u.SamePlace w :=
  ⟨h.scheme.trans h'.scheme, h.host.trans h'.host, h.port.trans h'.port, h.path.trans h'.path,
    h.query.trans h'.query, h.fragment.trans h'.fragment⟩

theorem text_of_authority (h : u.authority = some a) :
    u.text = u.scheme ++ ":" ++ "//" ++ (userInfo a ++
      (a.host.text ++ ((a.port.map fun p => s!":{p}").getD "") ++ u.path ++
        ((u.query.map ("?" ++ ·)).getD "") ++ ((u.fragment.map ("#" ++ ·)).getD ""))) := by
  unfold text authorityText
  rw [h]
  simp only [Option.map_some, Option.getD_some, String.append_assoc]

/-- URLs of one place have one user and password if they are written alike. -/
theorem SamePlace.user_eq (h : u.SamePlace v) (hu : u.authority = some a)
    (hv : v.authority = some b) (htext : u.text = v.text) : a.user = b.user := by
  have hhost : a.host = b.host := by simpa [hu, hv] using h.host
  have hport : a.port = b.port := by simpa [hu, hv] using h.port
  rw [text_of_authority hu, text_of_authority hv, h.scheme, hhost, hport, h.path, h.query,
    h.fragment, String.append_right_inj, String.append_left_inj] at htext
  exact UrlAuthority.user_eq_of_userInfo_eq htext

end Url

/-! ## The user of the endpoint -/

namespace UrlAuthority

variable {a : UrlAuthority} {name : String}

/-- The authority with another user. -/
def naming (a : UrlAuthority) (name : String) : UrlAuthority :=
  { a with username := String.ofList (Percent.encode Percent.inUserInfo name.toList) }

/-- The user information stands for the name if there is no password and nothing in the name is
escaped, and only then. -/
theorem decode_user_naming :
    Percent.decode (a.naming name).user.toList = Bytes.ofText name ↔
      a.password = none ∧ Percent.Unescaped name.toList := by
  cases hpassword : a.password with
  | none =>
      have huser : (a.naming name).user.toList =
          Percent.encode Percent.inUserInfo name.toList := by
        simp [user, naming, hpassword]
      rw [huser, Percent.decode_encode_inUserInfo, Bytes.ofText, Percent.decode_eq_iff]
      exact (and_iff_right rfl).symm
  | some password =>
      have huser : (a.naming name).user.toList =
          Percent.encode Percent.inUserInfo name.toList ++ ':' :: password.toList := by
        simp [user, naming, hpassword]
      refine iff_of_false (fun heq => ?_) (fun h => by cases h.1)
      rw [huser, Percent.decode_append_colon, Percent.decode_encode_inUserInfo] at heq
      exact Percent.decode_append_colon_ne _ _ heq

/-- Names in which nothing is escaped are told apart by what is written. -/
theorem eq_of_user_naming_eq {name' : String} (h : (a.naming name).user = (a.naming name').user)
    (hname : Percent.Unescaped name.toList) (hname' : Percent.Unescaped name'.toList) :
    name = name' := by
  have hwritten : Percent.encode Percent.inUserInfo name.toList =
      Percent.encode Percent.inUserInfo name'.toList :=
    String.ofList_injective ((String.append_left_inj _).1 h)
  have hbytes : Bytes.ofText name = Bytes.ofText name' := by
    calc Bytes.ofText name = Percent.decode name.toList := ((Percent.decode_eq_iff _).2 hname).symm
      _ = Percent.decode name'.toList := by
          rw [← Percent.decode_encode_inUserInfo, hwritten, Percent.decode_encode_inUserInfo]
      _ = Bytes.ofText name' := (Percent.decode_eq_iff _).2 hname'
  simpa using congrArg Bytes.toTextLossy hbytes

end UrlAuthority

namespace AdminPortalCredentials

variable {c : AdminPortalCredentials} {text : String}

theorem endpoint_cases (h : c.endpoint = .ok text) :
    ∃ v a, Url.parse c.url = .ok v ∧ v.authority = some a ∧
      c.endpointUrl = .ok { v with authority := some (a.naming c.accessToken) } ∧
      text = ({ v with authority := some (a.naming c.accessToken) } : Url).text := by
  obtain ⟨u, hurl, rfl⟩ : ∃ u, c.endpointUrl = .ok u ∧ u.text = text := by
    cases hurl : c.endpointUrl with
    | error e => simp [endpoint, hurl, Except.map] at h
    | ok u => exact ⟨u, rfl, by simpa [endpoint, hurl, Except.map] using h⟩
  have hcases := hurl
  unfold endpointUrl at hcases
  cases hparse : Url.parse c.url with
  | error e => simp [hparse] at hcases
  | ok v =>
      cases hauthority : v.authority with
      | none => simp [hparse, Url.withUsername, hauthority] at hcases
      | some a =>
          simp only [hparse, Url.withUsername, hauthority, Option.map_some] at hcases
          obtain rfl := Except.ok.inj hcases
          exact ⟨v, a, rfl, hauthority, hurl, rfl⟩

/-- An endpoint is the URL of the portal with another user.  Its user information stands for the
token if the URL has no password and nothing in the token is escaped, and only then; and two tokens
in which nothing is escaped give different endpoints. -/
theorem endpoint_carries_token (h : c.endpoint = .ok text) :
    ∃ (v u : Url) (a b : UrlAuthority), Url.parse c.url = .ok v ∧ c.endpointUrl = .ok u ∧
      v.authority = some a ∧ u.authority = some b ∧ text = u.text ∧ u.SamePlace v ∧
      (Percent.decode b.user.toList = Bytes.ofText c.accessToken ↔
        a.password = none ∧ Percent.Unescaped c.accessToken.toList) ∧
      ∀ token, Percent.Unescaped c.accessToken.toList → Percent.Unescaped token.toList →
        ({ c with accessToken := token } : AdminPortalCredentials).endpoint = .ok text →
        token = c.accessToken := by
  obtain ⟨v, a, hparse, ha, hurl, rfl⟩ := endpoint_cases h
  have hplace (token : String) :
      ({ v with authority := some (a.naming token) } : Url).SamePlace v :=
    ⟨rfl, by rw [ha]; rfl, by rw [ha]; rfl, rfl, rfl, rfl⟩
  refine ⟨v, _, a, _, hparse, hurl, ha, rfl, rfl, hplace _, UrlAuthority.decode_user_naming, ?_⟩
  intro token hc htoken hsame
  obtain ⟨v', a', hparse', ha', -, htext⟩ := endpoint_cases hsame
  obtain rfl : v = v' := Except.ok.inj (hparse.symm.trans hparse')
  obtain rfl : a = a' := Option.some.inj (ha.symm.trans ha')
  have huser := ((hplace token).trans (hplace c.accessToken).symm).user_eq rfl rfl htext.symm
  exact UrlAuthority.eq_of_user_naming_eq huser htoken hc

/-- The endpoint of a portal without a password carries its token. -/
theorem endpoint_carries_plain_token :
    ∃ (v u : Url) (b : UrlAuthority), Url.parse "a://b" = .ok v ∧
      endpointUrl ⟨"a://b", "t"⟩ = .ok u ∧ u.authority = some b ∧ "a://t@b" = u.text ∧
      u.SamePlace v ∧ Percent.decode b.user.toList = Bytes.ofText "t" := by
  have hendpoint : endpoint ⟨"a://b", "t"⟩ = .ok "a://t@b" := rfl
  obtain ⟨v, u, a, b, hparse, hurl, ha, hb, htext, hplace, hcarries, -⟩ :=
    endpoint_carries_token hendpoint
  have hparsed : Url.parse "a://b" =
      .ok { scheme := "a", authority := some { host := .name "b" } } := rfl
  obtain rfl := Except.ok.inj (hparsed.symm.trans hparse)
  obtain rfl := Option.some.inj ha
  exact ⟨_, u, b, hparse, hurl, hb, htext, hplace,
    hcarries.2 ⟨rfl, by simp [Percent.unescaped_cons, Percent.unescaped_nil]⟩⟩

/-- A byte that is escaped in the token is taken for the byte. -/
theorem escaped_token_misread :
    ¬ ∀ (c : AdminPortalCredentials) (u : Url) (b : UrlAuthority), c.endpointUrl = .ok u →
      u.authority = some b → Percent.decode b.user.toList = Bytes.ofText c.accessToken := by
  intro h
  let b : UrlAuthority := { username := "%41", host := .name "b" }
  have hread := h ⟨"a://b", "%41"⟩ { scheme := "a", authority := some b } b rfl rfl
  exact absurd hread (by decide)

/-- A colon and its escaped form are written alike. -/
example : endpoint ⟨"a://b", ":"⟩ = endpoint ⟨"a://b", "%3A"⟩ := rfl

end AdminPortalCredentials

end ApiPlatform
