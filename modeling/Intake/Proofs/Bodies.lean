import Mathlib.Data.List.Basic
import Intake.Captcha.Verification

/-! What a request to the service says. Its body is taken apart by a reader of its own for forms
that are encoded in a text, which finds the secret and the token that the request was made for. -/

namespace Intake.Captcha

/-- The bytes of an encoded text: a plus stands for a blank, two hexadecimal digits after a percent
sign for a byte, and any other character for itself. -/
def formBytes? : List Char → Option (List UInt8)
  | [] => some []
  | '%' :: a :: b :: cs => do
    let byte := 16 * (← Json.hexDigit? a) + (← Json.hexDigit? b)
    return .ofNat byte :: (← formBytes? cs)
  | c :: cs => do return (if c = '+' then 0x20 else .ofNat c.toNat) :: (← formBytes? cs)

def formText? (cs : List Char) : Option String := do
  String.fromUTF8? ⟨(← formBytes? cs).toArray⟩

def formPair? (cs : List Char) : Option (String × String) :=
  match cs.dropWhile (· != '=') with
  | [] => none
  | _ :: value => do return (← formText? (cs.takeWhile (· != '=')), ← formText? value)

def formPairs? (body : String) : Option (List (String × String)) :=
  (body.toList.splitOn '&').mapM formPair?

theorem formBytes?_cons {c : Char} (hc : c ≠ '%') (cs : List Char) :
    formBytes? (c :: cs) =
      (formBytes? cs).map ((if c = '+' then 0x20 else .ofNat c.toNat) :: ·) := by
  rw [formBytes?]
  · cases formBytes? cs <;> rfl
  · rintro a b cs' rfl
    exact absurd rfl hc

theorem formBytes?_percent {a b : Char} {x y : Nat} (ha : Json.hexDigit? a = some x)
    (hb : Json.hexDigit? b = some y) (cs : List Char) :
    formBytes? ('%' :: a :: b :: cs) = (formBytes? cs).map (.ofNat (16 * x + y) :: ·) := by
  rw [formBytes?, ha, hb]
  cases formBytes? cs <;> rfl

theorem ofNat_of_isUnreserved : ∀ n < 256, isUnreserved (.ofNat n) = true →
    Char.ofNat n ≠ '%' ∧ Char.ofNat n ≠ '+' ∧ (Char.ofNat n).toNat = n := by
  decide +kernel

theorem hexDigit?_toUpper : ∀ d < 16, Json.hexDigit? (Text.hexDigit d).toUpper = some d := by
  decide +kernel

@[simp] theorem formBytes?_encodeByte (b : UInt8) (cs : List Char) :
    formBytes? (encodeByte b ++ cs) = (formBytes? cs).map (b :: ·) := by
  have hlt : b.toNat < 256 := b.toNat_lt
  have hself : UInt8.ofNat b.toNat = b := UInt8.ofNat_toNat
  unfold encodeByte
  split
  · rename_i hb
    obtain ⟨hpercent, hplus, hnat⟩ := ofNat_of_isUnreserved b.toNat hlt (by rwa [hself])
    rw [List.singleton_append, formBytes?_cons hpercent, if_neg hplus, hnat, hself]
  · split
    · rename_i hb
      rw [List.singleton_append, formBytes?_cons (by decide), if_pos rfl, beq_iff_eq.1 hb]
    · have hhigh := hexDigit?_toUpper (b.toNat / 16) (by omega)
      have hlow := hexDigit?_toUpper (b.toNat % 16) (by omega)
      have hdigits : (Text.hex 2 b.toNat).map Char.toUpper =
          [(Text.hexDigit (b.toNat / 16)).toUpper, (Text.hexDigit (b.toNat % 16)).toUpper] := by
        have hmod : b.toNat / 16 % 16 = b.toNat / 16 := Nat.mod_eq_of_lt (by omega)
        simp only [Text.hex, hmod, List.nil_append, List.cons_append, List.map_cons, List.map_nil]
      rw [hdigits]
      simp only [List.cons_append, List.nil_append]
      rw [formBytes?_percent hhigh hlow, Nat.div_add_mod, hself]

@[simp]
theorem formBytes?_flatMap (bs : List UInt8) : formBytes? (bs.flatMap encodeByte) = some bs := by
  induction bs with
  | nil => rfl
  | cons b bs ih => rw [List.flatMap_cons, formBytes?_encodeByte, ih, Option.map_some]

@[simp, grind =]
theorem formText?_formEncode (s : String) : formText? (formEncode s).toList = some s := by
  unfold formText? formEncode
  rw [String.toList_ofList, formBytes?_flatMap]
  exact dif_pos s.isValidUTF8

def isApart (c : Char) : Bool := c != '&' && c != '='

theorem encodeByte_apart : ∀ n < 256, (encodeByte (.ofNat n)).all isApart = true := by
  decide +kernel

theorem formEncode_apart {s : String} {c : Char} (hc : c ∈ (formEncode s).toList) :
    isApart c = true := by
  unfold formEncode at hc
  rw [String.toList_ofList, List.mem_flatMap] at hc
  obtain ⟨b, _, hc⟩ := hc
  have hall := encodeByte_apart b.toNat b.toNat_lt
  rw [UInt8.ofNat_toNat] at hall
  exact List.all_eq_true.1 hall c hc

theorem formPair?_append {name value : List Char} (hname : name.all isApart = true) :
    formPair? (name ++ '=' :: value) =
      (do return (← formText? name, ← formText? value)) := by
  have hall : ∀ c ∈ name, (c != '=') = true := by
    intro c hc
    exact (Bool.and_eq_true_iff.1 (List.all_eq_true.1 hname c hc)).2
  unfold formPair?
  rw [List.dropWhile_append_of_pos hall, List.takeWhile_append_of_pos hall]
  simp

def formPair (name value : String) : List Char := name.toList ++ '=' :: (formEncode value).toList

theorem formPair_apart {name : String} (hname : name.toList.all isApart = true) (value : String) :
    ∀ c ∈ formPair name value, (c == '&') = false := by
  intro c hc
  rw [beq_eq_false_iff_ne]
  rcases List.mem_append.1 hc with hc | hc
  · exact bne_iff_ne.1 (Bool.and_eq_true_iff.1 (List.all_eq_true.1 hname c hc)).1
  · rcases List.mem_cons.1 hc with rfl | hc
    · decide
    · exact bne_iff_ne.1 (Bool.and_eq_true_iff.1 (formEncode_apart hc)).1

theorem formPair?_formPair {name : String} (hname : name.toList.all isApart = true)
    (htext : formText? name.toList = some name) (value : String) :
    formPair? (formPair name value) = some (name, value) := by
  unfold formPair
  rw [formPair?_append hname, htext, formText?_formEncode]
  rfl

/-- The secret and the token can be read from the body of the request for them. -/
@[simp, grind =] theorem formPairs?_body (secret token : String) :
    formPairs? (body secret token) = some [("secret", secret), ("response", token)] := by
  have hbody : (body secret token).toList =
      formPair "secret" secret ++ '&' :: formPair "response" token := by
    simp [body, formPair]
  have hparts : (body secret token).toList.splitOn '&' =
      [formPair "secret" secret, formPair "response" token] := by
    rw [hbody, List.splitOn,
      List.splitOnP_append_cons_of_forall_mem (formPair_apart (by decide) secret) _ rfl,
      List.splitOnP_eq_singleton (formPair_apart (by decide) token)]
  unfold formPairs?
  rw [hparts, List.mapM_cons, List.mapM_cons, List.mapM_nil,
    formPair?_formPair (by decide) (by decide +kernel),
    formPair?_formPair (by decide) (by decide +kernel)]
  rfl

/-- A request for a secret and a token: it goes to the address of the settings, and the body is a
form of these two and nothing else. -/
structure Posts (c : Client) (pair : String × String) (r : Request) : Prop where
  url : r.url = c.settings.url
  body : r.body = "secret=" ++ formEncode pair.1 ++ "&response=" ++ formEncode pair.2
  pairs : formPairs? r.body = some [("secret", pair.1), ("response", pair.2)]
  timeout : r.timeout = if c.isShared then .null else c.settings.timeout

theorem request_posts (c : Client) (pair : String × String) :
    Posts c pair (c.request pair.1 pair.2) where
  url := rfl
  body := rfl
  pairs := formPairs?_body pair.1 pair.2
  timeout := rfl

end Intake.Captcha
