import SquarePool.Rehearsal.Stage

/-!
# Asking again

A page is fetched again only while the server asks to slow down. Main statement: as long as it does
so no more often than may be tried again, the first other answer decides the outcome, after as many
requests as there were answers up to it; otherwise the requests run out, and the outcome says how
many there were. What a link does with one request is relied on: `Link.Reaches` says what that is,
and a rehearsed link does so.
-/

namespace SquarePool

/-! ## Servers -/

namespace Http

/-- What a server answers: a response, and the place that it points to, if it points to one. -/
structure Reply extends Response where
  location : Option String := none
  deriving DecidableEq, Repr

/-- A server: its answer to a request, given the requests before. When the connection breaks there
is none, and something is said of that. -/
abbrev Server : Type := List Request → Request → Except String Reply

/-- The answer to a request that was sent `i` times before, after those `sent` at first. -/
def Server.again (server : Server) (sent : List Request) (request : Request) (i : Nat) :
    Except String Reply :=
  server (sent ++ List.replicate i request) request

theorem Server.again_zero {server : Server} {sent : List Request} {request : Request} :
    server.again sent request 0 = server sent request := by
  rw [again, List.replicate_zero, List.append_nil]

theorem Server.again_succ {server : Server} {sent : List Request} {request : Request} (i : Nat) :
    server.again (sent ++ [request]) request i = server.again sent request (i + 1) := by
  rw [again, again, List.append_assoc, List.singleton_append, List.replicate_succ]

theorem Request.isSome_target? (request : Request) :
    request.target?.isSome = (afterHost? request.url).isSome := by
  rw [target?, Option.isSome_map]

theorem Response.isSuccess_iff {r : Response} : r.isSuccess = true ↔ r.status / 100 = 2 := by
  rw [isSuccess, Bool.and_eq_true, decide_eq_true_iff, decide_eq_true_iff]
  omega

end Http

/-- The answer asks to slow down. -/
def AsksToSlowDown : Except String Http.Reply → Prop
  | .ok r => r.status = 429
  | .error _ => False

/-- The answer leads on to another place, where a link may go by itself. -/
def LeadsOn : Except String Http.Reply → Prop
  | .ok r => r.status ∈ [301, 302, 303, 307, 308] ∧ r.location ≠ none
  | .error _ => False

instance : DecidablePred AsksToSlowDown
  | .ok r => inferInstanceAs (Decidable (r.status = 429))
  | .error _ => inferInstanceAs (Decidable False)

instance : DecidablePred LeadsOn
  | .ok r => inferInstanceAs (Decidable (_ ∧ r.location ≠ none))
  | .error _ => inferInstanceAs (Decidable False)

theorem AsksToSlowDown.not_leadsOn {answer : Except String Http.Reply} (h : AsksToSlowDown answer) :
    ¬ LeadsOn answer := by
  cases answer with
  | error => exact id
  | ok r =>
    have hstatus : r.status = 429 := h
    rw [LeadsOn, hstatus]
    exact fun leads => absurd leads.1 (by decide)

/-! ## Links -/

namespace Link

variable {σ : Type}

/-- The link reaches a server, where `sent` are the requests that the server has got. It is relied
on for what the sender of a request promises. A request to an address is sent once and as it is, and
its answer comes back, unless that leads on. A request to what is no address is not sent. -/
structure Reaches (link : Link σ) (server : Http.Server) (sent : σ → List Http.Request)
    (isAddress : String → Prop) : Prop where
  sends : ∀ request s, isAddress request.url → ¬ LeadsOn (server (sent s) request) →
    (link.send request s).1 = (server (sent s) request).map Http.Reply.toResponse ∧
      sent (link.send request s).2 = sent s ++ [request]
  refuses : ∀ request s, ¬ isAddress request.url →
    (∃ cause, (link.send request s).1 = .error cause) ∧ sent (link.send request s).2 = sent s

/-- The state after a request is sent a number of times. -/
def after (link : Link σ) (request : Http.Request) : Nat → σ → σ
  | 0, s => s
  | n + 1, s => (link.send request (link.after request n s)).2

theorem after_succ (link : Link σ) (request : Http.Request) (n : Nat) (s : σ) :
    link.after request (n + 1) s = (link.send request (link.after request n s)).2 := rfl

end Link

namespace Stage

/-- What a rehearsed server answers on the web. -/
def onWeb (server : Server) : Http.Server := fun before request =>
  match request.target? with
  | some target =>
    (server (before.filterMap (·.target?)) target).response.elim (.error noResponse)
      fun response => .ok { toResponse := response }
  | none => .error noResponse

/-- A rehearsed server is reached at the addresses of the web. -/
theorem reaches_link (server : Server) :
    (link (some server)).Reaches (onWeb server) Stage.requests
      fun url => (Http.afterHost? url).isSome where
  sends request s haddress _ := by
    obtain ⟨target, htarget⟩ :=
      Option.isSome_iff_exists.1 (request.isSome_target?.trans haddress)
    cases hreply : (server (s.requests.filterMap (·.target?)) target).response <;>
      simp [link, send, onWeb, htarget, hreply, Except.map]
  refuses request s haddress := by
    have htarget : request.target? = none := by
      rwa [← request.isSome_target?, Option.not_isSome_iff_eq_none] at haddress
    simp [link, send, htarget]

end Stage

namespace Feed

/-! ## Questions that one page answers -/

/-- The address of the page that answers a question; a span of days has a page for each day. -/
def Client.address? (client : Client) : Question → Option String
  | .teams league => some (teamsAddress client.base league)
  | .scoreboard league query => some (scoreboardAddress client.base league query)
  | .dateRange .. => none
  | .schedule league teamId => some (scheduleAddress client.base league teamId)
  | .summary league gameId => some (summaryAddress client.base league gameId)
  | .season league => some (scoreboardAddress client.base league {})

/-- The request for a page. -/
def Client.request (client : Client) (url : String) : Http.Request where
  url := url
  userAgent := client.userAgent

/-- Decodes the text of a page. -/
def readPage {α : Type} (complaint : Page → String → String) (page : Page)
    (decode : Json → Option α) (body : String) : Except FeedError α :=
  let text := dropMark body
  ((Json.parse? text).bind decode).elim (.error (.decode page (complaint page text))) .ok

/-- The answer in the text of a page. -/
def readAnswer (complaint : Page → String → String) (now : Instant) (body : String) :
    (q : Question) → Except FeedError q.Answer
  | .teams _ =>
    (readPage complaint .teams TeamsPage.decode body).bind fun page => .ok page.teams
  | .scoreboard .. | .dateRange .. =>
    (readPage complaint .scoreboard ScoreboardPage.decode body).bind fun page => .ok page.games
  | .schedule .. =>
    (readPage complaint .schedule SchedulePage.decode body).bind fun page => .ok page.games
  | .summary .. =>
    (readPage complaint .summary SummaryPage.decode body).bind fun page => page.game
  | .season _ =>
    (readPage complaint .scoreboard ScoreboardPage.decode body).bind fun page => page.season now

/-- What a question fails with when its page has a status other than success. -/
def refusal (url : String) (status : Nat) : Question → FeedError
  | .summary league gameId =>
    if status = 404 then .gameNotFound league gameId else .status status url
  | _ => .status status url

/-- The outcome of a question that an answer other than a call to slow down decides. -/
def decidedBy (complaint : Page → String → String) (q : Question) (url : String) (now : Instant) :
    Except String Http.Reply → Except FeedError q.Answer
  | .error cause => .error (.network cause)
  | .ok r =>
    if r.status / 100 = 2 then readAnswer complaint now r.body q
    else .error (refusal url r.status q)

/-! ## A question is a page that is fetched and read -/

/-- What the failure to fetch a page says about a question. -/
def toldBy (e : FeedError) : Question → FeedError
  | .summary league gameId => notFound league gameId e
  | _ => e

section Apply

variable {σ α : Type} {client : Client} {link : Link σ} {q : Question} {url : String} {s t : σ}
  {fetched : Except FeedError String} {page : Page} {decode : Json → Option α}

theorem page_of_stopped (hstop : link.isStopped s = true) :
    client.page link page decode url s = (.error .cancelled, s) := by
  rw [Client.page, if_pos hstop]

/-- A page is fetched and then decoded. -/
theorem page_apply (hstop : link.isStopped s = false)
    (hfetch : fetchFrom link (client.request url) client.maxRetries 1 s = (fetched, t)) :
    client.page link page decode url s = (fetched.bind (readPage link.complaint page decode), t) := by
  have hsent : fetchFrom link { url, userAgent := client.userAgent } client.maxRetries 1 s =
      (fetched, t) := hfetch
  rw [Client.page, if_neg (by simp [hstop])]
  dsimp only
  rw [hsent]
  cases fetched with
  | error e => rfl
  | ok body =>
    cases h : (Json.parse? (dropMark body)).bind decode <;> simp [readPage, h, Except.bind]

/-- A page that was fetched is no missing game, even if it cannot be decoded. -/
theorem page_mapError_apply (league : League) (gameId : String) (hstop : link.isStopped s = false)
    (hfetch : fetchFrom link (client.request url) client.maxRetries 1 s = (fetched, t)) :
    (client.page link page decode url).mapError (notFound league gameId) s =
      ((fetched.mapError (notFound league gameId)).bind (readPage link.complaint page decode),
        t) := by
  rw [Action.mapError, page_apply hstop hfetch]
  cases fetched with
  | error e => rfl
  | ok body =>
    have hdecode : (readPage link.complaint page decode body).mapError (notFound league gameId) =
        readPage link.complaint page decode body := by
      rw [readPage]
      cases (Json.parse? (dropMark body)).bind decode <;> rfl
    exact congrArg (·, t) hdecode

/-- What is made of a page that was read depends on the page and the state alone. -/
theorem bind_apply_of_read {β : Type} {x : Action σ FeedError α} {f : α → Action σ FeedError β}
    {read : String → Except FeedError α} {g : σ → α → Except FeedError β}
    (hx : x s = (fetched.bind read, t)) (hf : ∀ a t, f a t = (g t a, t)) :
    (x >>= f) s = (fetched.bind fun body => (read body).bind (g t), t) := by
  rw [Action.bind_apply, hx]
  cases fetched with
  | error e => rfl
  | ok body => cases h : read body <;> simp [Except.bind, h, hf]

/-- Asked to stop before, the client sends nothing. -/
theorem ask_of_stopped (h : client.address? q = some url) (hstop : link.isStopped s = true) :
    client.ask link q s = (.error .cancelled, s) := by
  cases q with
  | dateRange => cases h
  | summary =>
    refine Action.bind_of_error ?_ _
    rw [Action.mapError, page_of_stopped hstop]
    rfl
  | teams | scoreboard | schedule | season =>
    exact Action.bind_of_error (page_of_stopped hstop) _

/-- A question that one page answers is answered by what was fetched. -/
theorem ask_apply (h : client.address? q = some url) (hstop : link.isStopped s = false)
    (hfetch : fetchFrom link (client.request url) client.maxRetries 1 s = (fetched, t)) :
    client.ask link q s =
      ((fetched.mapError (toldBy · q)).bind fun body =>
        readAnswer link.complaint (link.now t) body q, t) := by
  cases q with
  | dateRange => cases h
  | teams league =>
    obtain rfl := Option.some.inj h
    refine (bind_apply_of_read (g := fun _ (page : TeamsPage) => .ok page.teams)
      (page_apply hstop hfetch) (fun _ _ => rfl)).trans ?_
    cases fetched <;> rfl
  | scoreboard league query =>
    obtain rfl := Option.some.inj h
    refine (bind_apply_of_read (g := fun _ (page : ScoreboardPage) => .ok page.games)
      (page_apply hstop hfetch) (fun _ _ => rfl)).trans ?_
    cases fetched <;> rfl
  | schedule league teamId =>
    obtain rfl := Option.some.inj h
    refine (bind_apply_of_read (g := fun _ (page : SchedulePage) => .ok page.games)
      (page_apply hstop hfetch) (fun _ _ => rfl)).trans ?_
    cases fetched <;> rfl
  | summary league gameId =>
    obtain rfl := Option.some.inj h
    exact bind_apply_of_read (g := fun _ (page : SummaryPage) => page.game)
      (page_mapError_apply league gameId hstop hfetch) (fun _ _ => rfl)
  | season league =>
    obtain rfl := Option.some.inj h
    refine (bind_apply_of_read (g := fun t (page : ScoreboardPage) => page.season (link.now t))
      (page_apply hstop hfetch) (fun _ _ => rfl)).trans ?_
    cases fetched <;> rfl

end Apply

/-! ## One request and all requests -/

/-- What is fetched when an answer other than a call to slow down comes. -/
def settledBy (url : String) : Except String Http.Reply → Except FeedError String
  | .error cause => .error (.network cause)
  | .ok r => if r.isSuccess then .ok r.body else .error (.status r.status url)

theorem decidedBy_eq (complaint : Page → String → String) (q : Question) (url : String)
    (now : Instant) (answer : Except String Http.Reply) :
    decidedBy complaint q url now answer =
      ((settledBy url answer).mapError (toldBy · q)).bind fun body =>
        readAnswer complaint now body q := by
  cases answer with
  | error cause => cases q <;> rfl
  | ok r =>
    rw [decidedBy, settledBy]
    simp only [← Http.Response.isSuccess_iff]
    by_cases hr : r.isSuccess
    · rw [if_pos hr, if_pos hr]
      rfl
    · rw [if_neg hr, if_neg hr]
      show _ = Except.error (toldBy (.status r.status url) q)
      congr 1
      cases q with
      | summary league gameId =>
        rw [refusal, toldBy]
        by_cases h404 : r.status = 404
        · rw [if_pos h404, h404, notFound]
        · rw [if_neg h404, notFound]
          exact fun _ h => h404 (FeedError.status.inj h).1
      | _ => rfl

section Sent

variable {σ : Type} {link : Link σ} {request : Http.Request} {answer : Except String Http.Reply}
  {retries attempt : Nat} {s : σ} {url : String}

theorem read_of_slow (h : AsksToSlowDown answer) :
    ((answer.map Http.Reply.toResponse).mapError (.network ·)).bind (readResponse attempt url) =
      .error (.rateLimited attempt url) := by
  cases answer with
  | error cause => exact h.elim
  | ok r =>
    have hmany : r.isTooMany = true := by simpa [AsksToSlowDown, Http.Response.isTooMany] using h
    exact if_pos hmany

theorem read_of_settled (h : ¬ AsksToSlowDown answer) :
    ((answer.map Http.Reply.toResponse).mapError (.network ·)).bind (readResponse attempt url) =
      settledBy url answer := by
  cases answer with
  | error cause => rfl
  | ok r =>
    have hmany : r.isTooMany = false := by simpa [AsksToSlowDown, Http.Response.isTooMany] using h
    exact if_neg (Bool.eq_false_iff.1 hmany)

/-- What settles the matter is no reason to try again. -/
theorem isRetryable_of_settledBy {e : FeedError} (h : settledBy url answer = .error e) :
    e.isRetryable = false := by
  cases answer with
  | error cause =>
    obtain rfl := Except.error.inj h
    rfl
  | ok r =>
    rw [settledBy] at h
    split at h
    · exact nomatch h
    · obtain rfl := Except.error.inj h
      rfl

/-- An answer that does not ask to slow down settles the matter. -/
theorem fetchFrom_of_settled (hsend : (link.send request s).1 = answer.map Http.Reply.toResponse)
    (hstop : link.isStopped (link.send request s).2 = false) (h : ¬ AsksToSlowDown answer) :
    fetchFrom link request retries attempt s =
      (settledBy request.url answer, (link.send request s).2) := by
  rw [fetchFrom]
  simp only [hsend, hstop, read_of_settled h]
  cases hread : settledBy request.url answer with
  | ok body => simp
  | error e => simp [isRetryable_of_settledBy hread]

/-- After an answer that asks to slow down the request is sent again, if it may be. -/
theorem fetchFrom_of_slow (hsend : (link.send request s).1 = answer.map Http.Reply.toResponse)
    (hstop : link.isStopped (link.send request s).2 = false) (h : AsksToSlowDown answer) :
    fetchFrom link request (retries + 1) attempt s =
      fetchFrom link request retries (attempt + 1) (link.send request s).2 := by
  rw [fetchFrom]
  simp [hsend, hstop, read_of_slow h, FeedError.isRetryable]

/-- After an answer that asks to slow down the request is given up, if it may not be sent again. -/
theorem fetchFrom_zero_of_slow
    (hsend : (link.send request s).1 = answer.map Http.Reply.toResponse)
    (hstop : link.isStopped (link.send request s).2 = false) (h : AsksToSlowDown answer) :
    fetchFrom link request 0 attempt s =
      (.error (.rateLimited attempt request.url), (link.send request s).2) := by
  rw [fetchFrom]
  simp [hsend, hstop, read_of_slow h, FeedError.isRetryable]

/-- Being asked to stop while a request is on its way ends the matter. -/
theorem fetchFrom_of_stopped (hstop : link.isStopped (link.send request s).2 = true) :
    fetchFrom link request retries attempt s = (.error .cancelled, (link.send request s).2) := by
  rw [fetchFrom]
  simp [hstop]

end Sent

section Run

variable {σ : Type} {link : Link σ} {server : Http.Server} {sent : σ → List Http.Request}
  {isAddress : String → Prop} {request : Http.Request} {retries attempt k : Nat} {s : σ}

/-- As long as every answer asks to slow down, the request arrives once more each time. -/
theorem sent_after_of_all_slow (reaches : link.Reaches server sent isAddress)
    (address : isAddress request.url)
    (slow : ∀ i < k, AsksToSlowDown (server.again (sent s) request i)) :
    sent (link.after request k s) = sent s ++ List.replicate k request := by
  induction k with
  | zero => rw [List.replicate_zero, List.append_nil, Link.after]
  | succ k ih =>
    have before := ih fun i hi => slow i (by omega)
    have hslow : AsksToSlowDown (server (sent (link.after request k s)) request) := by
      rw [before]
      exact slow k (by omega)
    rw [Link.after_succ, (reaches.sends request _ address hslow.not_leadsOn).2, before,
      List.append_assoc, ← List.replicate_succ']

/-- After answers that ask to slow down, the request is answered once more. -/
theorem sends_after_of_all_slow (reaches : link.Reaches server sent isAddress)
    (address : isAddress request.url)
    (slow : ∀ i < k, AsksToSlowDown (server.again (sent s) request i))
    (stays : ¬ LeadsOn (server.again (sent s) request k)) :
    (link.send request (link.after request k s)).1 =
        (server.again (sent s) request k).map Http.Reply.toResponse ∧
      sent (link.after request (k + 1) s) = sent s ++ List.replicate (k + 1) request := by
  have before := sent_after_of_all_slow reaches address slow
  have hanswer : server (sent (link.after request k s)) request =
      server.again (sent s) request k := by
    rw [before]
    rfl
  obtain ⟨answered, arrived⟩ := reaches.sends request _ address (hanswer ▸ stays)
  rw [hanswer] at answered
  refine ⟨answered, ?_⟩
  rw [Link.after_succ, arrived, before, List.append_assoc, ← List.replicate_succ']

/-- As long as every answer asks to slow down, the request is sent again. -/
theorem fetchFrom_of_all_slow (reaches : link.Reaches server sent isAddress)
    (address : isAddress request.url) (hk : k ≤ retries)
    (running : ∀ i ≤ k, link.isStopped (link.after request i s) = false)
    (slow : ∀ i < k, AsksToSlowDown (server.again (sent s) request i)) :
    fetchFrom link request retries attempt s =
      fetchFrom link request (retries - k) (attempt + k) (link.after request k s) := by
  induction k with
  | zero => rw [Nat.sub_zero, Nat.add_zero, Link.after]
  | succ k ih =>
    have hslow : AsksToSlowDown (server.again (sent s) request k) := slow k (by omega)
    have answered := (sends_after_of_all_slow reaches address (fun i hi => slow i (by omega))
      hslow.not_leadsOn).1
    have hstop := running (k + 1) (Nat.le_refl _)
    rw [Link.after_succ] at hstop
    rw [ih (by omega) (fun i hi => running i (by omega)) fun i hi => slow i (by omega),
      show retries - k = retries - (k + 1) + 1 by omega,
      fetchFrom_of_slow answered hstop hslow, ← Link.after_succ, Nat.add_assoc]

/-- The first answer that does not ask to slow down settles the matter. -/
theorem fetchFrom_of_slow_then_settled (reaches : link.Reaches server sent isAddress)
    (address : isAddress request.url) (hk : k ≤ retries)
    (running : ∀ i ≤ k + 1, link.isStopped (link.after request i s) = false)
    (slow : ∀ i < k, AsksToSlowDown (server.again (sent s) request i))
    (last : ¬ AsksToSlowDown (server.again (sent s) request k))
    (stays : ¬ LeadsOn (server.again (sent s) request k)) :
    fetchFrom link request retries attempt s =
      (settledBy request.url (server.again (sent s) request k),
        link.after request (k + 1) s) := by
  have answered := (sends_after_of_all_slow reaches address slow stays).1
  have hstop := running (k + 1) (Nat.le_refl _)
  rw [Link.after_succ] at hstop
  rw [fetchFrom_of_all_slow reaches address hk (fun i hi => running i (by omega)) slow,
    fetchFrom_of_settled answered hstop last, Link.after_succ]

/-- If all answers ask to slow down, the request is given up in the end. -/
theorem fetchFrom_of_always_slow (reaches : link.Reaches server sent isAddress)
    (address : isAddress request.url)
    (running : ∀ i ≤ retries + 1, link.isStopped (link.after request i s) = false)
    (slow : ∀ i ≤ retries, AsksToSlowDown (server.again (sent s) request i)) :
    fetchFrom link request retries attempt s =
      (.error (.rateLimited (attempt + retries) request.url),
        link.after request (retries + 1) s) := by
  have last := slow retries (Nat.le_refl _)
  have before : ∀ i < retries, AsksToSlowDown (server.again (sent s) request i) :=
    fun i hi => slow i (Nat.le_of_lt hi)
  have answered := (sends_after_of_all_slow reaches address before last.not_leadsOn).1
  have hstop := running (retries + 1) (Nat.le_refl _)
  rw [Link.after_succ] at hstop
  rw [fetchFrom_of_all_slow reaches address (Nat.le_refl _) (fun i hi => running i (by omega))
    before, Nat.sub_self, fetchFrom_zero_of_slow answered hstop last, Link.after_succ]

/-- A request ends the run, or it is sent again because its answer asks to slow down. -/
theorem fetchFrom_cases (reaches : link.Reaches server sent isAddress)
    (address : isAddress request.url) (stays : ¬ LeadsOn (server (sent s) request))
    (retries attempt : Nat) :
    (fetchFrom link request retries attempt s).2 = (link.send request s).2 ∨
      AsksToSlowDown (server (sent s) request) ∧ ∃ left, retries = left + 1 ∧
        fetchFrom link request retries attempt s =
          fetchFrom link request left (attempt + 1) (link.send request s).2 := by
  have answered := (reaches.sends request s address stays).1
  by_cases hstop : link.isStopped (link.send request s).2 = true
  · exact .inl (by rw [fetchFrom_of_stopped hstop])
  · rw [Bool.not_eq_true] at hstop
    by_cases h : AsksToSlowDown (server (sent s) request)
    · cases retries with
      | zero => exact .inl (by rw [fetchFrom_zero_of_slow answered hstop h])
      | succ left => exact .inr ⟨h, left, rfl, fetchFrom_of_slow answered hstop h⟩
    · exact .inl (by rw [fetchFrom_of_settled answered hstop h])

/-- However the run ends, no answer but a call to slow down was followed by another request. -/
theorem exists_sent_fetchFrom (reaches : link.Reaches server sent isAddress)
    (address : isAddress request.url) (retries attempt : Nat) (s : σ)
    (stays : ∀ i ≤ retries, ¬ LeadsOn (server.again (sent s) request i)) :
    ∃ n ≤ retries + 1,
      sent (fetchFrom link request retries attempt s).2 = sent s ++ List.replicate n request ∧
      ∀ i, i + 1 < n → AsksToSlowDown (server.again (sent s) request i) := by
  induction retries generalizing attempt s with
  | zero =>
    have hstays : ¬ LeadsOn (server (sent s) request) := by
      simpa only [Http.Server.again_zero] using stays 0 (Nat.le_refl _)
    obtain hend | ⟨-, left, hleft, -⟩ := fetchFrom_cases reaches address hstays 0 attempt
    · refine ⟨1, by omega, ?_, fun i hi => absurd hi (by omega)⟩
      rw [hend, (reaches.sends request s address hstays).2]
      rfl
    · exact absurd hleft (by omega)
  | succ retries ih =>
    have hstays : ¬ LeadsOn (server (sent s) request) := by
      simpa only [Http.Server.again_zero] using stays 0 (by omega)
    have hsent := (reaches.sends request s address hstays).2
    obtain hend | ⟨h, left, hleft, hnext⟩ :=
      fetchFrom_cases reaches address hstays (retries + 1) attempt
    · refine ⟨1, by omega, ?_, fun i hi => absurd hi (by omega)⟩
      rw [hend, hsent]
      rfl
    · obtain rfl : left = retries := by omega
      obtain ⟨n, hn, hmore, hslow⟩ := ih (attempt + 1) (link.send request s).2 fun i hi => by
        rw [hsent, Http.Server.again_succ]
        exact stays (i + 1) (by omega)
      refine ⟨n + 1, by omega, ?_, fun i hi => ?_⟩
      · rw [hnext, hmore, hsent, List.append_assoc, List.singleton_append, List.replicate_succ]
      · cases i with
        | zero => rwa [Http.Server.again_zero]
        | succ i =>
          rw [← Http.Server.again_succ, ← hsent]
          exact hslow i (by omega)

/-- What is no address is not asked at all. -/
theorem fetchFrom_of_refused (reaches : link.Reaches server sent isAddress)
    (request : Http.Request) (refused : ¬ isAddress request.url) (retries attempt : Nat) (s : σ) :
    sent (fetchFrom link request retries attempt s).2 = sent s ∧
      (link.isStopped (link.send request s).2 = false → ∃ cause,
        fetchFrom link request retries attempt s =
          (.error (.network cause), (link.send request s).2)) := by
  obtain ⟨⟨cause, hcause⟩, hsent⟩ := reaches.refuses request s refused
  let answer : Except String Http.Reply := .error cause
  have hanswer : (link.send request s).1 = answer.map Http.Reply.toResponse := hcause
  have failed (hstop : link.isStopped (link.send request s).2 = false) :
      fetchFrom link request retries attempt s =
        (.error (.network cause), (link.send request s).2) :=
    fetchFrom_of_settled hanswer hstop id
  refine ⟨?_, fun hstop => ⟨cause, failed hstop⟩⟩
  cases hstop : link.isStopped (link.send request s).2 with
  | true => rw [fetchFrom_of_stopped hstop, hsent]
  | false => rw [failed hstop, hsent]

end Run

end Feed

end SquarePool
