import Mathlib.Algebra.GroupWithZero.Nat
import Mathlib.Algebra.Order.BigOperators.Group.List
import Mathlib.Algebra.Order.Group.Nat
import ShaderBuild.Proofs.ObjectHistories

/-!
A driver that remembers what it was told and answers about an object with the sources that were
submitted for it. It is as local as a driver can be: what was said about other objects never shows
(`Echo.answersLocally`).
-/

set_option autoImplicit false
set_option relaxedAutoImplicit false

namespace ShaderBuild

def Object.number : Object → Nat
  | .shader id => id.number
  | .program id => id.number

namespace Echo

/-- The source that is submitted. -/
def source? (exchange : Exchange) : Option String :=
  match exchange.call with
  | .compileShader _ source => some source
  | _ => none

/-- The sources submitted for an object, for a program those of its shaders. -/
def told (x : Object) (history : List Exchange) : String :=
  String.join ((about x history).filterMap source?)

/-- What is known about the object that the call is about. -/
def textFor (call : Call) (history : List Exchange) : String :=
  match call.named with
  | [] => ""
  | x :: _ => told x history

/-- A number above all others. -/
def unused (history : List Exchange) : Nat := ((madeIn history).map Object.number).sum + 1

/-- There is one attribute, named with the text. -/
def parameter (text : String) (code : Gl.Code) : Int32 :=
  if code = Gl.Code.activeAttributes then 1
  else if code = Gl.Code.activeUniforms then 0
  else Int32.ofNat text.utf8ByteSize

def say (text : String) (number : Nat) : (call : Call) → call.Answer
  | .createShader _ => .ok ⟨number⟩
  | .compileShader _ _ => ()
  | .compileStatus _ => !Text.isBlank text
  | .shaderLog _ => text
  | .createProgram => .ok ⟨number⟩
  | .attachShader _ _ => ()
  | .linkProgram _ => ()
  | .linkStatus _ => !Text.isBlank text
  | .parameter _ code => parameter text code
  | .programLog _ => text
  | .activeVariable _ _ _ _ => some ⟨text, 1, 0x8B52⟩
  | .binary _ _ => ⟨0x8AF0, Text.encode text⟩

def driver : Driver (List Exchange) where
  answer call := fun history ↦
    let answer := say (textFor call history) (unused history) call
    ⟨answer, [], history ++ [⟨call, answer⟩]⟩

theorem eq_append_of_replies {start history s : List Exchange}
    (h : driver.Replies start history s) : s = start ++ history := by
  induction history generalizing start with
  | nil => rw [← show start = s from h, List.append_nil]
  | cons exchange rest ih =>
    obtain ⟨call, answer⟩ := exchange
    obtain ⟨rfl, hrest⟩ := h
    rw [ih hrest]
    exact List.append_assoc _ _ _

theorem lt_unused {history : List Exchange} {x : Object} (h : x ∈ madeIn history) :
    x.number < unused history :=
  Nat.lt_succ_of_le (List.le_sum_of_mem (List.mem_map_of_mem h))

theorem unnumbered_say (text : String) (number : Nat) (call : Call) :
    Exchange.unnumbered ⟨call, say text number call⟩ =
      ⟨call.unnumbered, say text 0 call.unnumbered⟩ := by
  cases call <;> rfl

theorem source?_unnumbered (exchange : Exchange) :
    source? exchange.unnumbered = source? exchange := by
  obtain ⟨call, answer⟩ := exchange
  cases call <;> rfl

theorem told_eq_of_alike {x x' : Object} {history history' : List Exchange}
    (h : Alike x x' history history') : told x' history' = told x history := by
  obtain ⟨naming, -, -, habout⟩ := h
  have hunnumbered : (about x' history').map Exchange.unnumbered =
      (about x history).map Exchange.unnumbered := by
    rw [← List.forall₂_eq_eq_eq, List.forall₂_map_left_iff, List.forall₂_map_right_iff]
    exact (habout.imp fun _ _ hsame ↦ hsame.unnumbered_eq).flip
  have hsources : ∀ exchanges : List Exchange,
      exchanges.filterMap source? = (exchanges.map Exchange.unnumbered).filterMap source? := by
    intro exchanges
    rw [List.filterMap_map]
    exact List.filterMap_congr fun exchange _ ↦ (source?_unnumbered exchange).symm
  unfold told
  rw [hsources, hunnumbered, ← hsources]

theorem answersLocally : driver.AnswersLocally [] where
  creates := by
    intro history s call hreplies hcall
    obtain rfl : s = history := eq_append_of_replies hreplies
    have hnew : ∀ x ∈ madeIn s, x.number ≠ unused s := fun x hx ↦ Nat.ne_of_lt (lt_unused hx)
    cases call with
    | createShader stage =>
      exact ⟨.shader ⟨unused s⟩, rfl, fun hold ↦ hnew _ hold rfl⟩
    | createProgram =>
      exact ⟨.program ⟨unused s⟩, rfl, fun hold ↦ hnew _ hold rfl⟩
    | _ => cases hcall
  answers := by
    intro history history' s s' call call' x x' rest rest' hreplies hreplies' hcall hcall'
      hunnumbered halike
    obtain rfl : s = history := eq_append_of_replies hreplies
    obtain rfl : s' = history' := eq_append_of_replies hreplies'
    have htext : textFor call' s' = textFor call s := by
      rw [textFor, textFor, hcall, hcall']
      exact told_eq_of_alike halike
    show Exchange.unnumbered ⟨call', say (textFor call' s') _ call'⟩ =
      Exchange.unnumbered ⟨call, say (textFor call s) _ call⟩
    rw [unnumbered_say, unnumbered_say, htext, hunnumbered]

end Echo

end ShaderBuild
