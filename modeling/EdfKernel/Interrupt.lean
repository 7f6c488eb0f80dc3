/-!
A controller of thirty-two interrupt lines. A line is raised by a request and
lowered by an acknowledgement; requests made in between coalesce. Masking
counts: each mask adds one level and each unmask removes one, in a 32-bit
word. The controller knows nothing of what a handler does, so its type is a
parameter.

The lemmas say what each operation does to one line; a line number that the
controller does not have names no line and is ignored.
-/

namespace EdfKernel

def lineCount : Nat := 32

def lineName (line : Nat) : String := s!"irq{line}"

structure Line (η : Type) where
  handler : Option η
  enabled : Bool
  pending : Bool

namespace Line

variable {η : Type}

def idle : Line η := ⟨none, false, false⟩

def isReady (line : Line η) : Bool := line.enabled && line.pending

end Line

inductive LineError where
  | invalidLine (line max : Nat)
  | alreadyRegistered (line : Nat)
deriving DecidableEq, Repr

namespace LineError

def message : LineError → String
  | invalidLine line max => lineName line ++ s!" out of range (max {max})"
  | alreadyRegistered line => lineName line ++ " already has a handler"

end LineError

structure Controller (η : Type) where
  lines : Vector (Line η) lineCount
  maskDepth : UInt32

namespace Controller

variable {η : Type}

def quiet : Controller η := ⟨Vector.replicate lineCount Line.idle, 0⟩

def line? (controller : Controller η) (n : Nat) : Option (Line η) := controller.lines[n]?

def modify (controller : Controller η) (n : Nat) (f : Line η → Line η) : Controller η :=
  if inside : n < lineCount then
    { controller with lines := controller.lines.set n (f controller.lines[n]) }
  else controller

def isPending (controller : Controller η) (n : Nat) : Bool :=
  (controller.line? n).any (·.pending)

def isEnabled (controller : Controller η) (n : Nat) : Bool :=
  (controller.line? n).any (·.enabled)

def isMasked (controller : Controller η) : Bool := 0 < controller.maskDepth

def mask (controller : Controller η) : Controller η :=
  { controller with maskDepth := controller.maskDepth + 1 }

def unmask (controller : Controller η) : Controller η :=
  { controller with maskDepth := controller.maskDepth - 1 }

def request (controller : Controller η) (n : Nat) : Controller η :=
  controller.modify n fun line => { line with pending := true }

def clear (controller : Controller η) (n : Nat) : Controller η :=
  controller.modify n fun line => { line with pending := false }

def enable (controller : Controller η) (n : Nat) : Controller η :=
  controller.modify n fun line => { line with enabled := true }

def disable (controller : Controller η) (n : Nat) : Controller η :=
  controller.modify n fun line => { line with enabled := false }

/-- A line takes one handler, for good. -/
def register (controller : Controller η) (n : Nat) (handler : η) :
    Except LineError (Controller η) :=
  match controller.line? n with
  | none => .error (.invalidLine n lineCount)
  | some line =>
      if line.handler.isSome then .error (.alreadyRegistered n)
      else .ok (controller.modify n fun line => { line with handler := some handler })

def pendingLines (controller : Controller η) : List Nat :=
  (List.range lineCount).filter controller.isPending

theorem line?_modify (controller : Controller η) (n k : Nat) (f : Line η → Line η) :
    (controller.modify n f).line? k =
      if k = n then (controller.line? k).map f else controller.line? k := by
  unfold modify line?
  split
  case isTrue inside =>
    by_cases same : k = n
    · subst same
      simp [inside]
    · simp [same, Vector.getElem?_set_ne _ (Ne.symm same)]
  case isFalse outside =>
    by_cases same : k = n
    · subst same
      simp [outside]
    · simp [same]

theorem line?_isSome (controller : Controller η) (n : Nat) :
    (controller.line? n).isSome = decide (n < lineCount) := by
  by_cases inside : n < lineCount <;> simp [line?, inside]

@[simp] theorem maskDepth_modify (controller : Controller η) (n : Nat)
    (f : Line η → Line η) : (controller.modify n f).maskDepth = controller.maskDepth := by
  unfold modify
  split <;> rfl

@[simp] theorem line?_mask (controller : Controller η) (n : Nat) :
    controller.mask.line? n = controller.line? n := rfl

@[simp] theorem line?_unmask (controller : Controller η) (n : Nat) :
    controller.unmask.line? n = controller.line? n := rfl

theorem modify_mask (controller : Controller η) (n : Nat) (f : Line η → Line η) :
    controller.mask.modify n f = (controller.modify n f).mask := by
  unfold modify mask
  split <;> rfl

@[simp] theorem unmask_mask (controller : Controller η) : controller.mask.unmask = controller := by
  simp [mask, unmask]

theorem isPending_request (controller : Controller η) (n k : Nat) :
    (controller.request n).isPending k =
      if k = n then decide (n < lineCount) else controller.isPending k := by
  unfold isPending request
  rw [line?_modify]
  split
  case isTrue same =>
    subst same
    have found := line?_isSome controller k
    cases line : controller.line? k <;> simp_all
  case isFalse => rfl

theorem isPending_clear (controller : Controller η) (n k : Nat) :
    (controller.clear n).isPending k = (decide (k ≠ n) && controller.isPending k) := by
  unfold isPending clear
  rw [line?_modify]
  split
  case isTrue same => cases controller.line? k <;> simp [same]
  case isFalse other => simp [other]

theorem isPending_enable (controller : Controller η) (n k : Nat) :
    (controller.enable n).isPending k = controller.isPending k := by
  unfold isPending enable
  rw [line?_modify]
  split
  case isTrue => cases controller.line? k <;> rfl
  case isFalse => rfl

end Controller

end EdfKernel
