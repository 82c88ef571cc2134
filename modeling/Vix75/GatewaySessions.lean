import Vix75.GatewayChecks

/-! How long a login at the gateway lasts, over any interleaving of logins and requests. -/

namespace Vix75

open EffectProgram

namespace Gateway

/-- A signed token is read back as the claims it was made of, until it expires. -/
structure Jwt.Lawful (jwt : Jwt) (secret : String) : Prop where
  returns : ∀ now claims other, jwt.decode now (jwt.encode claims secret) secret = some other →
    other = claims
  timely : ∀ now token claims, jwt.decode now token secret = some claims →
    now < claims.exp * 1000

section Interleavings

variable {Pid : Type} [DecidableEq Pid]

def App.Minted (app : App) (trace : List (GatewayLabel Pid)) (claims : Claims) : Prop :=
  ∃ before later pid now tale username password request,
    trace = before ++ .answer pid .now (.ok now) :: later ∧ stories before pid = some tale ∧
    tale.request = .token username password request ∧ claims = app.claimsAt username now

/-- Nobody presents a valid token that was not minted before. -/
def App.Unforged (app : App) (trace : List (GatewayLabel Pid)) : Prop :=
  ∀ before later pid service path request token now claims,
    trace = before ++ .start pid (.proxied service path request) :: later →
    app.rawToken request = some token →
    app.jwt.decode now token app.settings.jwtSecret = some claims →
    ∃ minted, app.Minted before minted ∧ token = app.jwt.encode minted app.settings.jwtSecret

/-- The token of every request that reaches an upstream service was decoded at an instant, later
than a login with the configured user and password and before `token_expire_minutes` had passed
since that login. -/
theorem session_of_login (app : App) {trace : List (GatewayLabel Pid)} {world : GatewayWorld}
    {after : GatewayConfig Pid} {before later : List (GatewayLabel Pid)} {pid : Pid}
    {upstream : UpstreamRequest} {reply : Except Fault UpstreamResponse}
    (lawful : app.jwt.Lawful app.settings.jwtSecret) (unforged : app.Unforged trace)
    (ran : app.system.run ⟨world, fun _ => none⟩ trace = some after)
    (here : trace = before ++ .answer pid (.upstream upstream) reply :: later) :
    ∃ (tale : Tale) (service path : String) (request : Request) (claims : Claims) (checked : ℤ),
      stories before pid = some tale ∧ tale.request = .proxied service path request ∧
      app.AcceptedAt tale request claims checked ∧
      ∃ (earlier rest : List (GatewayLabel Pid)) (login : Pid) (dated : ℤ) (tale : Tale)
          (request : Request),
        before = earlier ++ .answer login .now (.ok dated) :: rest ∧
        stories earlier login = some tale ∧
        tale.request =
          .token app.settings.gatewayUsername app.settings.gatewayPassword request ∧
        claims = app.claimsAt app.settings.gatewayUsername dated ∧
        (.answer pid .now (.ok checked) : GatewayLabel Pid) ∈ rest ∧
        checked < dated + app.settings.tokenExpireMinutes * 60000 := by
  obtain ⟨tale, told, service, path, request, claims, base, id, arrived, accepted, _⟩ :=
    permitted app ran here
  obtain ⟨checked, token, presented, read, decoded⟩ := accepted
  obtain ⟨start, since, began, answers⟩ := started_of_story told
  rw [arrived] at began
  have opened : trace = start ++ .start pid (.proxied service path request) ::
      (since ++ .answer pid (.upstream upstream) reply :: later) := by
    rw [here, began]
    simp
  obtain ⟨minted, ⟨earlier, rest, login, dated, own, username, password, body, at', tells,
    asked, rfl⟩, rfl⟩ := unforged _ _ _ _ _ _ _ _ _ opened presented decoded
  -- The login read the clock, so its user and password were the configured ones.
  have logged : trace = earlier ++ .answer login .now (.ok dated) ::
      (rest ++ .start pid (.proxied service path request) ::
        (since ++ .answer pid (.upstream upstream) reply :: later)) := by
    rw [opened, at']
    simp
  obtain ⟨again, toldAgain, known⟩ := permitted app ran logged
  obtain rfl : own = again := Option.some.inj (tells.symm.trans toldAgain)
  obtain ⟨rfl, rfl⟩ := known username password body asked
  have same := lawful.returns _ _ _ decoded
  have timely := lawful.timely _ _ _ decoded
  refine ⟨tale, service, path, request, claims, checked, told, arrived,
    ⟨_, presented, read, decoded⟩, earlier, rest ++ .start pid (.proxied service path request) ::
      since, login, dated, own, body, ?_, tells, asked, same, ?_, ?_⟩
  · rw [began, at']
    simp
  · exact List.mem_append_right _ (List.mem_cons_of_mem _ (answers _ (clockOf_mem read)))
  · rw [same] at timely
    simp only [App.claimsAt, App.expiresIn] at timely
    omega

end Interleavings

/-! A login, and a request a hundred seconds later -/

namespace Sample

def credentials : Request where
  method := "POST"
  headers := []
  queryParams := []
  body := .empty

def welcomed : Response := (App.tokenResponse (token "s") 3600).stamp "c-0"

def loggingIn : List (GatewayLabel ℕ) :=
  [.start 0 (.token "vix-admin" "change-me-gateway" credentials),
   .answer 0 .uuid4 (.ok "c-0"), .answer 0 .now (.ok 1735689600000),
   .answer 0 (.send welcomed) (.ok ()), .environment (.tick now),
   .start 1 (.proxied "signals" "history" history),
   .answer 1 .uuid4 (.ok "c-1"), .answer 1 .now (.ok now),
   .answer 1 .now (.ok now), .answer 1 .uuid4 (.ok "0123456789abcdef"),
   .answer 1 (.redis (.zremrangebyscore "rate:vix-admin" (now - 60000))) (.ok (0 : ℕ)),
   .answer 1 (.redis (.zadd "rate:vix-admin" "1735689700000-01234567" now)) (.ok (1 : ℕ)),
   .answer 1 (.redis (.zcard "rate:vix-admin")) (.ok (1 : ℕ)),
   .answer 1 (.redis (.expire "rate:vix-admin" 60)) (.ok true)]

def startsProxied : GatewayLabel ℕ → Bool
  | .start _ (.proxied _ _ _) => true
  | _ => false

theorem lawful : app.jwt.Lawful app.settings.jwtSecret where
  returns now claims other decoded := by
    have wrong : app.settings.jwtSecret ≠ token app.settings.jwtSecret := by decide +kernel
    simp only [app, jwt] at decoded wrong
    by_cases made : claims = issued
    · rw [if_pos made] at decoded
      split at decoded
      · rw [made, Option.some.inj decoded]
      · simp at decoded
    · simp [made, wrong] at decoded
  timely now presented claims decoded := by
    simp only [app, jwt] at decoded
    split at decoded
    · rename_i valid
      rw [← Option.some.inj decoded]
      exact valid.2.2
    · simp at decoded

theorem unforged (rest : List (GatewayLabel ℕ))
    (quiet : ∀ label ∈ rest, startsProxied label = false) : app.Unforged (loggingIn ++ rest) := by
  intro before later pid service path request presented at' claims here shown _
  have only : ∀ index, ((loggingIn ++ rest)[index]?.map startsProxied) = some true →
      index = 5 := by
    intro index proxied
    rcases Nat.lt_or_ge index loggingIn.length with inside | outside
    · have starts : ∀ index < loggingIn.length,
          (loggingIn[index]?.map startsProxied) = some true → index = 5 := by decide
      rw [List.getElem?_append_left inside] at proxied
      exact starts index inside proxied
    · rw [List.getElem?_append_right outside, Option.map_eq_some_iff] at proxied
      obtain ⟨label, found, proxied⟩ := proxied
      rw [quiet label (List.mem_of_getElem? found)] at proxied
      simp at proxied
  have position : before.length = 5 := only _ (by rw [here]; simp [startsProxied])
  have prefix' : before = loggingIn.take 5 := by
    have taken : (loggingIn ++ rest).take before.length = before := by rw [here]; simp
    rw [← taken, position]
    rfl
  have found : (loggingIn ++ rest)[5]? = some (.start pid (.proxied service path request)) := by
    rw [here, List.getElem?_append_right (by omega), position]
    rfl
  have asked : (loggingIn ++ rest)[5]? = some (.start 1 (.proxied "signals" "history" history)) :=
    rfl
  obtain ⟨-, same⟩ := Label.start.inj (Option.some.inj (found.symm.trans asked))
  obtain ⟨-, -, rfl⟩ := GatewayRequest.proxied.inj same
  have signed : app.rawToken history = some (app.jwt.encode issued app.settings.jwtSecret) := by
    decide +kernel
  refine ⟨issued, ⟨loggingIn.take 2, [.answer 0 (.send welcomed) (.ok ()),
    .environment (.tick now)], 0, 1735689600000, _, "vix-admin", "change-me-gateway", credentials,
    prefix', rfl, rfl, by decide⟩, ?_⟩
  exact Option.some.inj (shown.symm.trans signed)

end Sample

theorem session_of_login_history : ∃ (dated checked : ℤ),
    (.answer 1 .now (.ok checked) : GatewayLabel ℕ) ∈ Sample.loggingIn ∧
      checked < dated + Sample.app.settings.tokenExpireMinutes * 60000 := by
  have ran : (Sample.app.system.run ⟨{ clock := 1735689600000 }, fun _ => none⟩
      (Sample.loggingIn ++ [.answer 1 (.upstream Sample.asked) (.ok Sample.relayed)])).isSome =
        true := by
    decide +kernel
  obtain ⟨after, reached⟩ := Option.isSome_iff_exists.mp ran
  obtain ⟨_, _, _, _, _, checked, -, -, -, earlier, rest, login, dated, tale, request, split, -, -,
    -, read, timely⟩ := session_of_login Sample.app Sample.lawful
      (Sample.unforged _ (by simp [Sample.startsProxied])) reached rfl
  refine ⟨dated, checked, ?_, timely⟩
  rw [split]
  exact List.mem_append_right _ (List.mem_cons_of_mem _ read)

end Gateway

end Vix75
