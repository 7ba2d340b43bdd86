import LiveLine.Proofs.Acts

/-!
# Courses of acts

A course lists the acts that lead from one state of a host to another, each with the state in which
it happens, so that one can say what was done, and in what order.

* `Leads.exists_course`: where some acts lead, there is a course.
* `Passes`: nothing but time passes on the way; timers elapse and runs complete.
-/

namespace LiveLine.Host

/-- An act, and the state of the host in which it happens. -/
structure Deed where
  host : Host
  act : Act

/-- The acts that lead from one state of a host to another, the last one first. -/
inductive Course (w : Setup) (h : Host) : List Deed → Host → Prop
  | nil : Course w h [] h
  | cons {c : List Deed} {h' : Host} (prior : Course w h c h') (a : Act)
      (possible : a.Possible h') : Course w h (⟨h', a⟩ :: c) (h'.act w a)

section

variable {w : Setup} {h h' h'' : Host} {c c' : List Deed}

theorem Course.append (hc : Course w h c h') (hc' : Course w h' c' h'') :
    Course w h (c' ++ c) h'' := by
  induction hc' with
  | nil => exact hc
  | cons _ a possible ih => exact .cons ih a possible

theorem Course.leads (hc : Course w h c h') : Leads w h h' := by
  induction hc with
  | nil => exact .refl
  | cons _ a possible ih => exact .act ih a possible

theorem Leads.exists_course (hl : Leads w h h') : ∃ c, Course w h c h' := by
  induction hl with
  | refl => exact ⟨[], .nil⟩
  | act _ a possible ih =>
    obtain ⟨c, hc⟩ := ih
    exact ⟨_, .cons hc a possible⟩

/-! ### The passing of time -/

/-- What happens while nobody calls the host and no editor changes. -/
def Act.IsPassing : Act → Prop
  | elapse _ | complete _ | tick _ => True
  | _ => False

/-- Nothing but time passes on the way from one state of a host to another. -/
def Passes (w : Setup) (h h' : Host) : Prop :=
  ∃ c, Course w h c h' ∧ ∀ d ∈ c, d.act.IsPassing

namespace Passes

theorem refl (w : Setup) (h : Host) : Passes w h h :=
  ⟨[], .nil, fun _ hd => absurd hd List.not_mem_nil⟩

theorem single {a : Act} (possible : a.Possible h) (hPassing : a.IsPassing) :
    Passes w h (h.act w a) :=
  ⟨[⟨h, a⟩], .cons .nil a possible, fun d hd => by rwa [List.mem_singleton.mp hd]⟩

theorem trans (hp : Passes w h h') (hp' : Passes w h' h'') : Passes w h h'' := by
  obtain ⟨c, hc, hPassing⟩ := hp
  obtain ⟨c', hc', hPassing'⟩ := hp'
  refine ⟨c' ++ c, hc.append hc', fun d hd => ?_⟩
  exact (List.mem_append.mp hd).elim (hPassing' d) (hPassing d)

theorem leads (hp : Passes w h h') : Leads w h h' := by
  obtain ⟨c, hc, -⟩ := hp
  exact hc.leads

end Passes

end

end LiveLine.Host
