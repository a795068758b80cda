import Mathlib.Data.List.Forall2
import Intake.Proofs.Bodies
import Intake.Proofs.Validity

/-! Which requests the check of a form makes. Rules for captchas are applied to values in the order
in which fields are declared, children before their group. Each application asks the service at most
once, and where the report is valid each has asked it and taken a reply that says success. -/

namespace Intake

namespace Captcha

/-- A response with an object in which success is true. -/
def Reply.Succeeds : Reply → Prop
  | .response _ content => ∃ entries, Json.readBytes content = .ok (.map entries) ∧
      Value.fieldD "success" entries = .bool true
  | .failure _ | .crash _ => False

def Reply.passed : Reply :=
  .response 200 [123, 34, 115, 117, 99, 99, 101, 115, 115, 34, 58, 116, 114, 117, 101, 125]

structure Application where
  rule : Rule
  token : Value

namespace Application

def secret? (a : Application) : Option String :=
  match a.rule with
  | .options ⟨.captcha _ (.text s), _⟩ => if s == "" then none else some s
  | _ => none

/-- The secret and the token as a text. There are none for a token that does not hold or cannot be
written, and none without a secret. -/
def pair? (a : Application) : Option (String × String) :=
  a.secret?.bind fun secret =>
    if a.token.truthy && a.token.isWritable then some (secret, a.token.display) else none

end Application

/-- Between two exchanges a request has been made for each of some pairs, and has taken one of the
replies. -/
structure Sends (c : Client) (e e' : Exchange) (asked : List (String × String)) : Prop where
  requests : ∃ sent, e'.requests = e.requests ++ sent ∧ List.Forall₂ (Posts c) asked sent
  replies : e'.replies = e.replies.drop asked.length

def Answered (n : Nat) (replies : List Reply) : Prop :=
  n ≤ replies.length ∧ ∀ r ∈ replies.take n, r.Succeeds

theorem Sends.of_eq {c : Client} {e e' : Exchange} (hrequests : e'.requests = e.requests)
    (hreplies : e'.replies = e.replies) : Sends c e e' [] where
  requests := ⟨[], by rw [hrequests, List.append_nil], .nil⟩
  replies := hreplies

theorem sends_nil (c : Client) (e : Exchange) : Sends c e e [] := .of_eq rfl rfl

theorem Sends.append {c : Client} {e e₁ e₂ : Exchange} {asked asked' : List (String × String)}
    (h : Sends c e e₁ asked) (h' : Sends c e₁ e₂ asked') : Sends c e e₂ (asked ++ asked') where
  requests := by
    obtain ⟨sent, hsent, hposts⟩ := h.requests
    obtain ⟨sent', hsent', hposts'⟩ := h'.requests
    exact ⟨sent ++ sent', by rw [hsent', hsent, List.append_assoc],
      List.rel_append hposts hposts'⟩
  replies := by rw [h'.replies, h.replies, List.drop_drop, List.length_append]

theorem answered_zero (replies : List Reply) : Answered 0 replies :=
  ⟨Nat.zero_le _, fun r hr => by simp at hr⟩

theorem Answered.add {m n : Nat} {replies : List Reply} (h : Answered m replies)
    (h' : Answered n (replies.drop m)) : Answered (m + n) replies := by
  obtain ⟨hm, hfirst⟩ := h
  obtain ⟨hn, hnext⟩ := h'
  rw [List.length_drop] at hn
  refine ⟨by omega, fun r hr => ?_⟩
  rw [List.take_add] at hr
  exact (List.mem_append.1 hr).elim (hfirst r) (hnext r)

end Captcha

namespace Run
open Captcha

variable {α β : Type} {c : Client} {xs ys : List Application}

/-- A run makes requests for some applications, in their order. Where it ends well it has made one
for each of them, and has been answered each time. -/
def Asks (c : Client) (r : Run α) (xs : List Application) (well : α → Prop) : Prop :=
  ∀ e, ∃ asked, Sends c e (r.outcome e).2 asked ∧
    asked.Sublist (xs.filterMap Application.pair?) ∧
    ∀ x, (r.outcome e).1 = .ok x → well x →
      xs.map Application.pair? = asked.map some ∧ Answered asked.length e.replies

theorem AsksNothing.asks_of_never {r : Run α} {well : α → Prop} (h : r.AsksNothing)
    (hnever : r.Gives fun x => ¬ well x) : Asks c r xs well := by
  intro e
  obtain ⟨y, rfl⟩ := h
  rw [outcome_ofExcept]
  refine ⟨[], sends_nil c e, List.nil_sublist _, fun x hx hwell => ?_⟩
  obtain rfl : y = .ok x := hx
  exact absurd hwell (hnever e x e (outcome_ofExcept _ e))

theorem AsksNothing.asks {r : Run α} {well : α → Prop} (h : r.AsksNothing) :
    Asks c r [] well := by
  intro e
  obtain ⟨y, rfl⟩ := h
  rw [outcome_ofExcept]
  exact ⟨[], sends_nil c e, List.nil_sublist _, fun _ _ _ => ⟨rfl, answered_zero _⟩⟩

theorem Asks.bind {r : Run α} {k : α → Run β} {p : α → Prop} {q : β → Prop} (h : Asks c r xs p)
    (hk : ∀ x, Asks c (k x) ys q) (hwell : ∀ x, (k x).Gives fun y => q y → p x) :
    Asks c (r >>= k) (xs ++ ys) q := by
  intro e
  obtain ⟨asked, hsends, hsub, hfull⟩ := h e
  rcases hr : r.outcome e with ⟨f | x, e₁⟩
  -- after a fault only requests of the first run have been made
  · rw [outcome_bind_error hr]
    rw [hr] at hsends
    refine ⟨asked, hsends, ?_, fun y hy => by cases hy⟩
    rw [List.filterMap_append]
    exact hsub.trans (List.sublist_append_left _ _)
  · rw [outcome_bind_ok hr]
    rw [hr] at hsends hfull
    obtain ⟨asked', hsends', hsub', hfull'⟩ := hk x e₁
    refine ⟨asked ++ asked', hsends.append hsends', ?_, fun y hy hwelly => ?_⟩
    · rw [List.filterMap_append]
      exact hsub.append hsub'
    · have hwellx : p x := hwell x e₁ y _ (Prod.ext hy rfl) hwelly
      obtain ⟨hmap, hanswered⟩ := hfull x rfl hwellx
      obtain ⟨hmap', hanswered'⟩ := hfull' y hy hwelly
      rw [hsends.replies] at hanswered'
      refine ⟨?_, ?_⟩
      · rw [List.map_append, List.map_append, hmap, hmap']
      · rw [List.length_append]
        exact hanswered.add hanswered'

theorem asks_ofExcept_bind {r : Except Fault α} {k : α → Run β} {q : β → Prop}
    (hk : ∀ x, r = .ok x → Asks c (k x) xs q) : Asks c (ofExcept r >>= k) xs q := by
  intro e
  cases r with
  | error f =>
    rw [outcome_bind_error (outcome_ofExcept _ e)]
    exact ⟨[], sends_nil c e, List.nil_sublist _, fun x hx => by cases hx⟩
  | ok x =>
    rw [outcome_bind_ok (outcome_ofExcept _ e)]
    exact hk x rfl e

theorem Asks.bind_pure {r : Run α} {g : α → β} {p : α → Prop} {q : β → Prop}
    (h : Asks c r xs p) (hg : ∀ x, q (g x) → p x) : Asks c (r >>= fun x => pure (g x)) xs q := by
  rw [← List.append_nil xs]
  exact h.bind (fun x => (asksNothing_pure (g x)).asks) fun x => gives_pure (hg x)

theorem Asks.map {r : Run α} {g : α → β} {p : α → Prop} {q : β → Prop} (h : Asks c r xs p)
    (hg : ∀ x, q (g x) → p x) : Asks c (g <$> r) xs q := by
  rw [map_eq_pure_bind]
  exact h.bind_pure hg

theorem Asks.orElse {r : Run α} {recover : Fault → α} {p : α → Prop} (h : Asks c r xs p)
    (hrecover : ∀ f, ¬ p (recover f)) : Asks c (r.orElse recover) xs p := by
  intro e
  obtain ⟨asked, hsends, hsub, hfull⟩ := h e
  rw [outcome_orElse]
  rcases hr : r.outcome e with ⟨f | x, e₁⟩
  · rw [hr] at hsends
    refine ⟨asked, hsends, hsub, fun y hy hwell => ?_⟩
    obtain rfl := Except.ok.inj hy
    exact absurd hwell (hrecover f)
  · rw [hr] at hsends hfull
    exact ⟨asked, hsends, hsub, hfull⟩

theorem Asks.append {r s : Run (List Failure)} (h : Asks c r xs (· = []))
    (hs : Asks c s ys (· = [])) :
    Asks c (do let here ← r; return here ++ (← s)) (xs ++ ys) (· = []) := by
  refine h.bind (fun here => ?_) fun here => ?_
  · exact hs.bind_pure fun rest hnil => (List.append_eq_nil_iff.1 hnil).2
  · refine (gives_true s).bind fun rest _ => gives_pure ?_
    exact fun hnil => (List.append_eq_nil_iff.1 hnil).1

end Run

namespace Captcha
open Run

theorem judge_outcome (c : Client) (status : Int) (content : List UInt8) (e : Exchange) :
    ∃ holds e', (judge status content).outcome e = (.ok holds, e') ∧ Sends c e e' [] ∧
      (holds = true → (Reply.response status content).Succeeds) := by
  have hlog : ∀ level message, ∃ holds e',
      (do logLine level message; return false : Run Bool).outcome e = (.ok holds, e') ∧
        Sends c e e' [] ∧ (holds = true → (Reply.response status content).Succeeds) :=
    fun level message => ⟨false, e.log level message, rfl, .of_eq rfl rfl, nofun⟩
  unfold judge
  split
  · exact hlog _ _
  · rename_i entries hread
    split
    · rename_i hsuccess
      refine ⟨true, e, rfl, sends_nil c e, fun _ => ⟨entries, hread, ?_⟩⟩
      cases hv : Value.fieldD "success" entries with
      | bool b =>
        rw [hv] at hsuccess
        rw [show b = true from hsuccess]
      | _ =>
        rw [hv] at hsuccess
        cases hsuccess
    · exact hlog _ _
  · exact hlog _ _

theorem sends_post (c : Client) (pair : String × String) (e : Exchange) :
    Sends c e (e.post (c.request pair.1 pair.2)).2 [pair] where
  requests := by
    refine ⟨[c.request pair.1 pair.2], ?_, .cons (request_posts c pair) .nil⟩
    unfold Exchange.post
    split <;> rfl
  replies := by
    unfold Exchange.post
    split
    · rename_i hnone
      rw [hnone]
      rfl
    · rename_i reply rest hreplies
      rw [hreplies]
      rfl

theorem answered_post {e : Exchange} {r : Request} (h : (e.post r).1.Succeeds) :
    Answered 1 e.replies := by
  unfold Exchange.post at h
  unfold Answered
  cases hreplies : e.replies with
  | nil =>
    rw [hreplies] at h
    exact h.elim
  | cons reply rest =>
    rw [hreplies] at h
    simpa using h

theorem verify_outcome (c : Client) (pair : String × String) (e : Exchange) :
    ∃ x e', (verify c pair.1 pair.2).outcome e = (x, e') ∧ Sends c e e' [pair] ∧
      (x = .ok true → Answered 1 e.replies) := by
  let request := c.request pair.1 pair.2
  have hpost : (modifyGet fun e : Exchange => e.post request : Run Reply).outcome e =
      (.ok (e.post request).1, (e.post request).2) := rfl
  have hsends := sends_post c pair e
  unfold verify
  rw [outcome_bind_ok hpost]
  cases hreply : (e.post request).1 with
  | response status content =>
    obtain ⟨holds, e', hjudge, hlogs, hholds⟩ := judge_outcome c status content (e.post request).2
    refine ⟨.ok holds, e', hjudge, hsends.append hlogs, fun h => answered_post (r := request) ?_⟩
    rw [hreply]
    exact hholds (Except.ok.inj h)
  | failure text => exact ⟨.ok false, _, rfl, hsends.append (.of_eq rfl rfl), nofun⟩
  | crash text => exact ⟨.error _, _, rfl, hsends, nofun⟩

theorem verified_asks (c : Client) {a : Application} {secret token : String}
    (hpair : a.pair? = some (secret, token)) :
    Asks c (do
      if ← verify c secret token then return []
      return ["ReCaptcha validation failed."]) [a] (· = []) := by
  intro e
  obtain ⟨x, e', hout, hsends, hholds⟩ := verify_outcome c (secret, token) e
  have hall : [a].filterMap Application.pair? = [(secret, token)] := by simp [hpair]
  rw [hall]
  refine ⟨[(secret, token)], ?_⟩
  rcases x with f | holds
  · rw [outcome_bind_error hout]
    exact ⟨hsends, .refl _, nofun⟩
  · rw [outcome_bind_ok hout]
    cases holds with
    | true =>
      refine ⟨hsends, .refl _, fun x _ _ => ⟨?_, hholds rfl⟩⟩
      simp [hpair]
    | false =>
      refine ⟨hsends, .refl _, fun x hx hnil => ?_⟩
      rw [← Except.ok.inj hx] at hnil
      cases hnil

theorem secretOf_cases (r : Rule) (token : Value) :
    (∃ s, secretOf (Validation.withoutShorthand r) = .ok (.text s) ∧ usable? (.text s) = some s ∧
      (Application.mk r token).secret? = some s) ∨
    ∀ v, secretOf (Validation.withoutShorthand r) = .ok v → usable? v = none := by
  cases r with
  | plain v =>
    right
    intro w hw
    cases v with
    | null =>
      cases hw
      rfl
    | bool b =>
      cases b with
      | false => cases hw
      | true =>
        cases hw
        rfl
    | _ => cases hw
  | options o =>
    obtain ⟨o, extra⟩ := o
    cases o with
    | captcha siteKey secret =>
      cases secret with
      | text s =>
        by_cases hs : s = ""
        · right
          intro v hv
          cases hv
          simp [usable?, hs]
        · left
          exact ⟨s, rfl, by simp [usable?, hs], by simp [Application.secret?, hs]⟩
      | _ =>
        right
        intro v hv
        cases hv
        rfl
    | _ =>
      right
      intro v hv
      cases hv

theorem check_asks (c : Client) (token : Value) (r : Rule) :
    Asks c (check c token (Validation.withoutShorthand r)) [⟨r, token⟩] (· = []) := by
  unfold check
  refine asks_ofExcept_bind fun v hv => ?_
  rcases secretOf_cases r token with ⟨s, hs, husable, hsecret⟩ | hnone
  · obtain rfl := Except.ok.inj (hs.symm.trans hv)
    rw [husable]
    by_cases ht : token.truthy = true
    · simp only [ht, Bool.not_true, Bool.false_eq_true, if_false]
      refine asks_ofExcept_bind fun t hwritten => ?_
      have hwritable : token.isWritable = true ∧ token.display = t := by
        unfold Value.written at hwritten
        split at hwritten
        · rename_i h
          exact ⟨h, Except.ok.inj hwritten⟩
        · cases hwritten
      obtain ⟨hwritable, rfl⟩ := hwritable
      have hpair : (Application.mk r token).pair? = some (s, token.display) := by
        simp [Application.pair?, hsecret, ht, hwritable]
      exact verified_asks c hpair
    · simp only [ht, Bool.not_false, if_true]
      exact (asksNothing_pure _).asks_of_never (gives_pure (List.cons_ne_nil _ _))
  · rw [hnone v hv]
    refine (asksNothing_pure _).asks_of_never (gives_pure ?_)
    simp

end Captcha

namespace RuleBag
open Captcha

/-- The values that rules are applied to: a value itself, or the elements of a list where there is a
rule for lists, apart from the lists among them. The value of a group counts as one value. -/
def subjects (b : RuleBag) (isGroup : Bool) (v : Value) : List Value :=
  match v.elements?, isGroup with
  | some xs, false =>
    if (b.get? RuleKind.array.key).any Rule.truthy then xs.filter (·.elements?.isNone) else []
  | _, _ => [v]

def captchas (b : RuleBag) : List Rule :=
  (b.rules.filter fun e => RuleKind.captcha.key.equal e.1).map (·.2)

def appliedTo (b : RuleBag) (v : Value) : List Application :=
  if b.optsOut && Validation.isEmpty v then [] else b.captchas.map fun r => ⟨r, v⟩

def applications (b : RuleBag) (isGroup : Bool) (v : Value) : List Application :=
  (b.subjects isGroup v).flatMap b.appliedTo

@[simp, grind =] theorem captchas_erase_array (b : RuleBag) :
    (b.erase RuleKind.array.key).captchas = b.captchas := by
  unfold captchas erase
  rw [List.filter_filter]
  congr 2
  funext e
  by_cases he : RuleKind.captcha.key.equal e.1 = true
  · have hkey : e.1 = RuleKind.captcha.key := Value.text_equal_iff.1 he
    rw [hkey]
    rfl
  · simp [he]

@[simp, grind =] theorem appliedTo_erase_array (b : RuleBag) :
    (b.erase RuleKind.array.key).appliedTo = b.appliedTo := by
  funext v
  unfold appliedTo
  rw [optsOut_erase_array, captchas_erase_array]

end RuleBag

namespace Validation
open Captcha Run

variable (c : Context) (slug : Value)

theorem ruleFailures_asks (v key : Value) (r : Rule) :
    Asks c.client (ruleFailures c slug v key r)
      (if RuleKind.captcha.key.equal key then [⟨r, v⟩] else []) (· = []) := by
  by_cases hkey : RuleKind.captcha.key.equal key = true
  · rw [if_pos hkey, Value.text_equal_iff.1 hkey]
    exact (check_asks c.client v r).map fun _ => List.map_eq_nil_iff.1
  · rw [if_neg hkey]
    refine (ruleFailures_asksNothing ?_ v r).asks
    rintro rfl
    exact hkey (Value.text_equal_iff.2 rfl)

theorem rulesFailures_asks (v : Value) (b : RuleBag) :
    Asks c.client (rulesFailures c slug v b.rules) (b.captchas.map fun r => ⟨r, v⟩) (· = []) := by
  obtain ⟨rules⟩ := b
  induction rules with
  | nil => exact (asksNothing_pure []).asks
  | cons e rules ih =>
    have hfirst : (RuleBag.captchas ⟨e :: rules⟩).map (fun r => Application.mk r v) =
        (if RuleKind.captcha.key.equal e.1 then [⟨e.2, v⟩] else []) ++
          (RuleBag.captchas ⟨rules⟩).map fun r => ⟨r, v⟩ := by
      unfold RuleBag.captchas
      rw [List.filter_cons]
      split <;> rfl
    rw [hfirst]
    exact (ruleFailures_asks c slug v e.1 e.2).append ih

theorem elementFailures_asks (b : RuleBag) (x : Value) :
    Asks c.client (elementFailures c slug b x) (if x.elements?.isNone then b.appliedTo x else [])
      (· = []) := by
  unfold elementFailures RuleBag.appliedTo
  split
  · simp only [ite_self]
    exact (asksNothing_pure []).asks
  · split
    · exact (asksNothing_pure _).asks_of_never (gives_pure (List.cons_ne_nil _ _))
    · rename_i hlist
      rw [Bool.not_eq_true, Option.isSome_eq_false_iff] at hlist
      rw [if_pos hlist]
      exact rulesFailures_asks c slug x b

theorem elementsFailures_asks (b : RuleBag) (xs : List Value) :
    Asks c.client (elementsFailures c slug b xs)
      ((xs.filter (·.elements?.isNone)).flatMap b.appliedTo) (· = []) := by
  induction xs with
  | nil => exact (asksNothing_pure []).asks
  | cons x xs ih =>
    have hfirst : ((x :: xs).filter (·.elements?.isNone)).flatMap b.appliedTo =
        (if x.elements?.isNone then b.appliedTo x else []) ++
          (xs.filter (·.elements?.isNone)).flatMap b.appliedTo := by
      rw [List.filter_cons]
      split <;> rfl
    rw [hfirst]
    exact (elementFailures_asks c slug b x).append ih

theorem listFailures_asks (b : RuleBag) (v : Value) (xs : List Value) :
    Asks c.client (listFailures c slug v b xs)
      (if (b.get? RuleKind.array.key).any Rule.truthy then
        (xs.filter (·.elements?.isNone)).flatMap b.appliedTo else []) (· = []) := by
  unfold listFailures
  cases hrule : b.get? RuleKind.array.key with
  | none => exact (asksNothing_pure _).asks
  | some rule =>
    by_cases ht : rule.truthy = true
    · simp only [Option.any_some, ht, if_true, Bool.not_true, Bool.false_eq_true, if_false]
      refine asks_ofExcept_bind fun whole _ => ?_
      have helements := elementsFailures_asks c slug (b.erase RuleKind.array.key) xs
      rw [RuleBag.appliedTo_erase_array] at helements
      exact helements.bind_pure fun rest hnil => (List.append_eq_nil_iff.1 hnil).2
    · simp only [Option.any_some, ht, Bool.false_eq_true, if_false, Bool.not_false, if_true]
      exact (asksNothing_pure _).asks

/-- The check of a value asks for its applications in turn. -/
theorem valueFailures_asks (b : RuleBag) (v : Value) (isGroup : Bool) :
    Asks c.client (valueFailures c slug v b isGroup) (b.applications isGroup v) (· = []) := by
  have hsingle : Asks c.client (if b.optsOut && isEmpty v then pure []
      else rulesFailures c slug v b.rules) (b.appliedTo v) (· = []) := by
    unfold RuleBag.appliedTo
    split
    · exact (asksNothing_pure []).asks
    · exact rulesFailures_asks c slug v b
  unfold valueFailures RuleBag.applications RuleBag.subjects
  cases hv : v.elements? with
  | none =>
    rw [List.flatMap_singleton]
    exact hsingle
  | some xs =>
    have hempty := isEmpty_of_elements? hv
    cases isGroup with
    | true =>
      rw [List.flatMap_singleton]
      exact hsingle
    | false =>
      have hlist := listFailures_asks c slug b v xs
      rw [hempty, Bool.and_false]
      simp only [Bool.false_eq_true, if_false]
      split at hlist
      · rename_i ht
        rw [if_pos ht]
        exact hlist
      · rename_i ht
        rw [if_neg ht]
        exact hlist

def ownApplications (uploads : List Upload) (answers : List Answer) (f : Field) :
    List Application :=
  (effectiveRules f (locate f answers uploads)).applications f.isGroup (locate f answers uploads)

mutual

def fieldApplications (uploads : List Upload) (answers : List Answer) :
    Field → List Application
  | .group a children =>
    applications uploads ((Answer.group? (locate (.group a children) answers uploads)).getD [])
      children ++ ownApplications uploads answers (.group a children)
  | .leaf t a => ownApplications uploads answers (.leaf t a)
  | .unknown t a => ownApplications uploads answers (.unknown t a)
  | .select a choices => ownApplications uploads answers (.select a choices)
termination_by structural f => f

/-- The applications of captcha rules in a submission, in the order of the declaration. -/
def applications (uploads : List Upload) (answers : List Answer) : List Field → List Application
  | [] => []
  | f :: fs => fieldApplications uploads answers f ++ applications uploads answers fs
termination_by structural fs => fs

end

theorem guardedFailures_asks (uploads : List Upload) (f : Field) (answers : List Answer) :
    Asks c.client (guardedFailures c slug (locate f answers uploads)
      (effectiveRules f (locate f answers uploads)) f.isGroup) (ownApplications uploads answers f)
      (· = []) :=
  (valueFailures_asks c slug _ _ _).orElse fun _ => List.cons_ne_nil _ _

variable {uploads : List Upload}

mutual

theorem fieldFailures_asks (answers : List Answer) (own : List Upload) (f : Field)
    (hsame : Level.SameUploads f.slugs own uploads) :
    Asks c.client (fieldFailures c answers own f) (fieldApplications uploads answers f)
      (· = []) := by
  have hlocate := hsame.locate_eq (Field.slug_mem_slugs f) answers
  match f with
  | .group a children =>
    unfold fieldFailures
    -- the uploads passed on are the first ones of all slugs below the group
    refine asks_ofExcept_bind fun declared hdeclared => asks_ofExcept_bind fun passed hpassed => ?_
    obtain rfl := eq_of_asKeys hdeclared
    obtain rfl := eq_of_uploadsFor hpassed
    rw [hlocate]
    have hbelow := levelFailures_asks
      ((Answer.group? (locate (.group a children) answers uploads)).getD []) _ children
      (hsame.filter fun _ hs => List.mem_cons_of_mem _ hs)
    have hown := guardedFailures_asks c a.slug uploads (.group a children) answers
    refine (hbelow.orElse fun _ => List.cons_ne_nil _ _).bind (fun below => ?_) fun below => ?_
    · exact hown.bind_pure fun leaf hnil => (List.append_eq_nil_iff.1 hnil).2
    · refine (gives_true _).bind fun leaf _ => gives_pure fun hnil => ?_
      exact Level.underGroup_eq_nil_iff.1 (List.append_eq_nil_iff.1 hnil).1
  | .leaf t a =>
    unfold fieldFailures
    rw [hlocate]
    exact guardedFailures_asks c a.slug uploads (.leaf t a) answers
  | .unknown t a =>
    unfold fieldFailures
    rw [hlocate]
    exact guardedFailures_asks c a.slug uploads (.unknown t a) answers
  | .select a choices =>
    unfold fieldFailures
    rw [hlocate]
    exact guardedFailures_asks c a.slug uploads (.select a choices) answers
termination_by structural f

theorem levelFailures_asks (answers : List Answer) (own : List Upload) (fields : List Field)
    (hsame : Level.SameUploads (Field.slugsOf fields) own uploads) :
    Asks c.client (levelFailures c answers own fields) (applications uploads answers fields)
      (· = []) := by
  match fields with
  | [] => exact (asksNothing_pure _).asks
  | f :: fs =>
    have hfirst := fieldFailures_asks answers own f
      fun s hs => hsame s (List.mem_append_left _ hs)
    have hrest := restFailures_asks answers own fs
      fun s hs => hsame s (List.mem_append_right _ hs)
    unfold levelFailures
    refine asks_ofExcept_bind fun slugs _ => hfirst.bind (fun first => ?_) fun first => ?_
    · exact hrest.bind_pure fun rest hnil => (List.append_eq_nil_iff.1 hnil).2
    · refine (gives_true _).bind fun rest _ => gives_pure fun hnil => ?_
      exact (List.append_eq_nil_iff.1 (List.append_eq_nil_iff.1 hnil).1).2
termination_by structural fields

theorem restFailures_asks (answers : List Answer) (own : List Upload) (fs : List Field)
    (hsame : Level.SameUploads (Field.slugsOf fs) own uploads) :
    Asks c.client (restFailures c answers own fs) (applications uploads answers fs) (· = []) := by
  match fs with
  | [] => exact (asksNothing_pure []).asks
  | f :: fs =>
    unfold restFailures
    exact (fieldFailures_asks answers own f fun s hs => hsame s (List.mem_append_left _ hs)).append
      (restFailures_asks answers own fs fun s hs => hsame s (List.mem_append_right _ hs))
termination_by structural fs

end

theorem check_asks (answers : List Answer) (fields : List Field) (uploads : List Upload) :
    Asks c.client (check c answers fields uploads) (applications uploads answers fields)
      (·.isValid = true) := by
  have hlevel : Asks c.client (levelFailures c answers uploads fields)
      (applications uploads answers fields) (· = []) :=
    levelFailures_asks c answers uploads fields fun _ _ => rfl
  unfold check
  exact (hlevel.orElse fun _ => List.cons_ne_nil _ _).bind_pure fun _ => List.isEmpty_iff.1

/-- From any exchange the check of a form has a report. On its way it posts the pairs of secret and
token of some applications of captcha rules, in their order and none more than once, and each
request takes one reply. When the report is valid every application has had its pair posted, and
every reply that was taken says success. -/
theorem check_requests (fields : List Field) (answers : List Answer) (uploads : List Upload)
    (e : Exchange) :
    ∃ report e' asked sent, (check c answers fields uploads).outcome e = (.ok report, e') ∧
      e'.requests = e.requests ++ sent ∧ List.Forall₂ (Posts c.client) asked sent ∧
      e'.replies = e.replies.drop sent.length ∧
      asked.Sublist ((applications uploads answers fields).filterMap Application.pair?) ∧
      sent.length ≤ (applications uploads answers fields).length ∧
      (report.isValid = true →
        (applications uploads answers fields).map Application.pair? = asked.map some ∧
          sent.length ≤ e.replies.length ∧
            ∀ reply ∈ e.replies.take sent.length, reply.Succeeds) := by
  obtain ⟨asked, hsends, hsub, hfull⟩ := check_asks c answers fields uploads e
  obtain ⟨failures, e₁, hguarded⟩ := exists_outcome_orElse (levelFailures c answers uploads fields)
    (fun f => [formFault f]) e
  have hrun : (check c answers fields uploads).outcome e = (.ok ⟨failures⟩, e₁) :=
    outcome_bind_ok hguarded
  rw [hrun] at hsends hfull
  obtain ⟨sent, hrequests, hposts⟩ := hsends.requests
  have hlength : asked.length = sent.length := hposts.length_eq
  have hreplies := hsends.replies
  rw [hlength] at hreplies hfull
  refine ⟨⟨failures⟩, e₁, asked, sent, hrun, hrequests, hposts, hreplies, hsub, ?_,
    fun hvalid => ?_⟩
  · rw [← hlength]
    exact Nat.le_trans hsub.length_le (List.length_filterMap_le _ _)
  · exact hfull _ rfl hvalid

def robots : Field :=
  .group (.ofRules "guest" []) [.leaf .captcha
    { Attributes.ofRules "robot"
        [(.captcha, .options ⟨.captcha (.text "site") (.text "key"), []⟩)] with
      allowMultiple := true }]

def tokens : List Answer :=
  [⟨.text "guest", .list [.answer (.text "robot") (.list [.text "abc", .text "d&f"])]⟩]

/-- Both tokens are posted in turn with the secret, and both replies are taken. -/
theorem check_requests_robots :
    ∃ report e' r₁ r₂, (check .newYear tokens [robots] []).outcome (.start [.passed, .passed]) =
        (.ok report, e') ∧ report.isValid = true ∧ e'.requests = [r₁, r₂] ∧
      r₁.url = "https://www.google.com/recaptcha/api/siteverify" ∧
      r₁.body = "secret=key&response=abc" ∧ r₂.url = r₁.url ∧
      r₂.body = "secret=key&response=d%26f" ∧
      formPairs? r₂.body = some [("secret", "key"), ("response", "d&f")] ∧
      e'.replies = [] ∧ Reply.passed.Succeeds := by
  obtain ⟨report, e', asked, sent, hrun, hrequests, hposts, hreplies, -, -, hfull⟩ :=
    check_requests .newYear [robots] tokens [] (.start [.passed, .passed])
  have hvalid : ((check .newYear tokens [robots] []).outcome
      (.start [.passed, .passed])).1.toOption.map Report.isValid = some true := by decide +kernel
  rw [hrun] at hvalid
  obtain ⟨hall, _, hsucceed⟩ := hfull (Option.some.inj hvalid)
  have hasked : asked = [("key", "abc"), ("key", "d&f")] :=
    (List.map_inj_right fun _ _ h => Option.some.inj h).1 hall.symm
  subst hasked
  obtain ⟨r₁, _, hfirst, hrest, rfl⟩ := List.forall₂_cons_left_iff.1 hposts
  obtain ⟨r₂, _, hsecond, hnone, rfl⟩ := List.forall₂_cons_left_iff.1 hrest
  obtain rfl := List.forall₂_nil_left_iff.1 hnone
  have hbody₁ : r₁.body = "secret=key&response=abc" := hfirst.body.trans (by decide +kernel)
  have hbody₂ : r₂.body = "secret=key&response=d%26f" := hsecond.body.trans (by decide +kernel)
  exact ⟨report, e', r₁, r₂, hrun, Option.some.inj hvalid, hrequests, hfirst.url, hbody₁,
    hsecond.url.trans hfirst.url.symm, hbody₂, hsecond.pairs, hreplies,
    hsucceed _ List.mem_cons_self⟩

end Validation

end Intake
