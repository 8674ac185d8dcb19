import CodeFrame.Proofs.Session.Warnings
import CodeFrame.Session.Script
import Mathlib.Data.List.Basic
import Mathlib.Data.List.Nodup

/-!
# Bridges that come and go

Bridges are installed and uninstalled in any order. An uninstaller puts back the handler that its bridge
was installed over, so what was done in between is undone with it, and only that
(`Session.handler_after_uninstall`).

Hence the last call decides. After all bridges have been uninstalled, the handler is the one from before
the first of them exactly if the calls fall into *stretches*, each of which begins with the install of a
bridge and ends with its uninstall (`Session.handler_restored_iff`). Two bridges that are uninstalled in
the order of their installs are no such calls: the first one stays in place
(`Session.handler_restored_iff_of_overlap`).
-/

namespace CodeFrame

/-- A call that installs a bridge, or a call of its uninstaller. -/
inductive BridgeCall
  | install (handle : String) (emitter : Emitter) (ownOnly : Bool)
  | uninstall (handle : String)

namespace BridgeCall

/-- The command that makes the call. -/
def command : BridgeCall → Command
  | install handle e ownOnly => .install handle e ownOnly
  | uninstall handle => .uninstall handle

/-- The bridge that is installed. -/
def installed? : BridgeCall → Option String
  | install handle _ _ => some handle
  | uninstall _ => none

/-- The bridge that is uninstalled. -/
def uninstalled? : BridgeCall → Option String
  | install _ _ _ => none
  | uninstall handle => some handle

/-- The bridges that calls install. -/
def installed (calls : List BridgeCall) : List String :=
  calls.filterMap installed?

/-- Each bridge is installed once, and each uninstall comes behind the install of its bridge. -/
structure InOrder (calls : List BridgeCall) : Prop where
  once : (installed calls).Nodup
  behind : ∀ before handle after,
    calls = before ++ .uninstall handle :: after → handle ∈ installed before

/-- Each bridge is also uninstalled, and that once. -/
structure Paired (calls : List BridgeCall) : Prop extends InOrder calls where
  paired : (calls.filterMap uninstalled?).Perm (installed calls)

/-- Calls that fall into stretches, each from the install of a bridge to its uninstall. Within a stretch
there may be any calls. -/
inductive Stretches : List BridgeCall → Prop
  | nil : Stretches []
  | stretch {calls : List BridgeCall} (h : Stretches calls) (handle : String) (e : Emitter)
    (ownOnly : Bool) (between : List BridgeCall) :
    Stretches (calls ++ .install handle e ownOnly :: between ++ [.uninstall handle])

/-! ## Calls -/

@[simp] theorem installed_append (xs ys : List BridgeCall) :
    installed (xs ++ ys) = installed xs ++ installed ys :=
  List.filterMap_append

@[simp] theorem installed_install (handle : String) (e : Emitter) (ownOnly : Bool)
    (calls : List BridgeCall) :
    installed (.install handle e ownOnly :: calls) = handle :: installed calls :=
  rfl

@[simp] theorem installed_uninstall (handle : String) (calls : List BridgeCall) :
    installed (.uninstall handle :: calls) = installed calls :=
  rfl

/-- A bridge that is installed somewhere has its install there. -/
theorem exists_install_of_mem {handle : String} {calls : List BridgeCall}
    (h : handle ∈ installed calls) :
    ∃ before e ownOnly between, calls = before ++ .install handle e ownOnly :: between := by
  obtain ⟨c, hc, hinstalled⟩ := List.mem_filterMap.1 h
  cases c with
  | uninstall _ => cases hinstalled
  | install handle' e ownOnly =>
    cases hinstalled
    obtain ⟨before, between, rfl⟩ := List.mem_iff_append.1 hc
    exact ⟨before, e, ownOnly, between, rfl⟩

theorem InOrder.of_append {xs ys : List BridgeCall} (h : InOrder (xs ++ ys)) : InOrder xs where
  once := by
    have honce := h.once
    rw [installed_append] at honce
    exact honce.of_append_left
  behind := by
    intro before handle after heq
    apply h.behind before handle (after ++ ys)
    rw [heq, List.append_assoc, List.cons_append]

/-- A bridge is installed in one place only. -/
theorem InOrder.not_mem_installed {handle : String} {e : Emitter} {ownOnly : Bool}
    {before between : List BridgeCall}
    (h : InOrder (before ++ .install handle e ownOnly :: between)) :
    handle ∉ installed before ∧ handle ∉ installed between := by
  have honce := h.once
  rw [installed_append, installed_install, List.nodup_append, List.nodup_cons] at honce
  obtain ⟨-, ⟨hbetween, -⟩, hdisjoint⟩ := honce
  exact ⟨fun hbefore => hdisjoint _ hbefore _ List.mem_cons_self rfl, hbetween⟩

/-- What holds without a call, behind an install if it held before, and behind an uninstall if it held
before the install of the bridge, holds behind all calls in order. -/
theorem InOrder.induction {motive : ∀ calls, InOrder calls → Prop} (nil : ∀ h, motive [] h)
    (install : ∀ calls handle e ownOnly (h : InOrder (calls ++ [.install handle e ownOnly])),
      motive calls h.of_append → motive _ h)
    (uninstall : ∀ before handle e ownOnly between
      (h : InOrder (before ++ .install handle e ownOnly :: between ++ [.uninstall handle])),
      handle ∉ installed before → handle ∉ installed between → motive before h.of_append.of_append →
      motive _ h)
    {calls : List BridgeCall} (h : InOrder calls) : motive calls h := by
  -- on the number of calls: an uninstall leads back over all calls since the install
  induction hn : calls.length using Nat.strongRecOn generalizing calls with
  | ind n ih =>
    rcases List.eq_nil_or_concat calls with rfl | ⟨front, last, rfl⟩
    · exact nil h
    · revert h hn
      rw [List.concat_eq_append]
      intro h hn
      cases last with
      | install handle e ownOnly =>
        apply install
        exact ih front.length (by simp at hn; omega) h.of_append rfl
      | uninstall handle =>
        have hmem := h.behind front handle [] rfl
        obtain ⟨before, e, ownOnly, between, rfl⟩ := exists_install_of_mem hmem
        obtain ⟨hbefore, hbetween⟩ := h.of_append.not_mem_installed
        apply uninstall before handle e ownOnly between h hbefore hbetween
        exact ih before.length (by simp at hn; omega) h.of_append.of_append rfl

/-- The install of a bridge that is installed once is found in one place. -/
theorem eq_of_append_install_eq {handle : String} {e e' : Emitter} {ownOnly ownOnly' : Bool}
    {before before' between between' : List BridgeCall}
    (hbefore : handle ∉ installed before) (hbetween : handle ∉ installed between)
    (heq : before ++ .install handle e ownOnly :: between =
      before' ++ .install handle e' ownOnly' :: between') : before = before' := by
  rcases List.append_eq_append_iff.1 heq with ⟨more, rfl, hmore⟩ | ⟨more, rfl, hmore⟩
  · cases more with
    | nil => rw [List.append_nil]
    | cons c more =>
      obtain ⟨-, rfl⟩ := List.cons.inj hmore
      exact absurd (by simp) hbetween
  · cases more with
    | nil => rw [List.append_nil]
    | cons c more =>
      obtain ⟨rfl, -⟩ := List.cons.inj hmore
      exact absurd (by simp) hbefore

theorem not_stretches_install (calls : List BridgeCall) (handle : String) (e : Emitter)
    (ownOnly : Bool) : ¬ Stretches (calls ++ [.install handle e ownOnly]) := by
  generalize heq : calls ++ [.install handle e ownOnly] = all
  rintro (_ | ⟨_, handle', e', ownOnly', between⟩)
  · exact List.append_ne_nil_of_right_ne_nil calls (List.cons_ne_nil _ _) heq
  · cases (List.append_inj' heq rfl).2

/-- A last stretch can be told from its last call. -/
theorem stretches_uninstall_iff {handle : String} {e : Emitter} {ownOnly : Bool}
    {before between : List BridgeCall} (hbefore : handle ∉ installed before)
    (hbetween : handle ∉ installed between) :
    Stretches (before ++ .install handle e ownOnly :: between ++ [.uninstall handle]) ↔
      Stretches before := by
  constructor
  · generalize heq : before ++ .install handle e ownOnly :: between ++ [.uninstall handle] = all
    rintro (_ | ⟨hcalls, handle', e', ownOnly', between'⟩)
    · exact absurd heq (List.append_ne_nil_of_right_ne_nil _ (List.cons_ne_nil _ _))
    · obtain ⟨hfront, hlast⟩ := List.append_inj' heq rfl
      cases hlast
      rwa [eq_of_append_install_eq hbefore hbetween hfront]
  · exact fun h => h.stretch handle e ownOnly between

end BridgeCall

/-- The number of bridges that a notice may pass before it reaches the base handler. -/
def Handler.depth : Handler → Nat
  | base => 0
  | bridge _ _ earlier => earlier.depth + 1

namespace Session

open BridgeCall

/-! ## Sessions -/

/-- The session after a call and the report on it. -/
def afterCall (σ : Session) : BridgeCall → Session
  | .install handle e ownOnly =>
    { bridged e ownOnly σ with
      handles := (handle, σ.handler) :: σ.handles, written := [], received := [] }
  | .uninstall handle =>
    { σ with
      handler := (σ.handles.lookup handle).getD σ.handler, written := [], received := [] }

/-- The session after calls. -/
def afterCalls (σ : Session) (calls : List BridgeCall) : Session :=
  calls.foldl afterCall σ

theorem afterCalls_append (σ : Session) (xs ys : List BridgeCall) :
    σ.afterCalls (xs ++ ys) = (σ.afterCalls xs).afterCalls ys :=
  List.foldl_append

/-- An uninstaller fails only if nothing is called by its name. -/
theorem uninstall_run (handle : String) (σ : Session) :
    (uninstall handle).run σ = match σ.handles.lookup handle with
      | some h => (.ok (), { σ with handler := h })
      | none => (.error (.unknownName handle), σ) := by
  show (match σ.handles.lookup handle with
    | some h => modify fun σ : Session => { σ with handler := h }
    | none => throw (.unknownName handle) : Step Unit).run σ = _
  split <;> rfl

theorem run_command (env : Environment) (inside : Bool) (c : BridgeCall) (σ : Session) :
    (Command.run env inside c.command σ).escaped = none ∧
      (Command.run env inside c.command σ).session = σ.afterCall c := by
  cases c with
  | install handle e ownOnly => exact ⟨rfl, rfl⟩
  | uninstall handle =>
    have hrun : (Command.step (.uninstall handle)).run σ = _ :=
      run_bind (uninstall handle) (fun _ => return Outcome.done) σ
    rw [uninstall_run] at hrun
    have hafter : σ.afterCall (.uninstall handle) = { σ with
        handler := (σ.handles.lookup handle).getD σ.handler, written := [], received := [] } := rfl
    show (reported "uninstall" (Command.step (.uninstall handle)) σ).escaped = none ∧
      (reported "uninstall" (Command.step (.uninstall handle)) σ).session = _
    rw [reported, hrun, hafter]
    cases σ.handles.lookup handle <;> exact ⟨rfl, rfl⟩

/-- Calls leave nothing but the session that they lead to. -/
theorem runAll_command (env : Environment) (inside : Bool) (calls : List BridgeCall) (σ : Session) :
    (Command.runAll env inside (calls.map command) σ).escaped = none ∧
      (Command.runAll env inside (calls.map command) σ).session = σ.afterCalls calls := by
  induction calls generalizing σ with
  | nil => exact ⟨rfl, rfl⟩
  | cons c calls ih =>
    obtain ⟨hescaped, hsession⟩ := run_command env inside c σ
    obtain ⟨hrest, hafter⟩ := ih (σ.afterCall c)
    rw [List.map_cons, Command.runAll]
    simp only [hescaped, hsession]
    exact ⟨hrest, hafter⟩

/-- The handler that a bridge was installed over stays remembered. -/
theorem lookup_afterCalls {σ : Session} {handle : String} {h : Handler} {between : List BridgeCall}
    (hbetween : handle ∉ installed between) (hlookup : σ.handles.lookup handle = some h) :
    (σ.afterCalls between).handles.lookup handle = some h := by
  induction between generalizing σ with
  | nil => exact hlookup
  | cons c between ih =>
    cases c with
    | install handle' e ownOnly =>
      rw [installed_install, List.mem_cons, not_or] at hbetween
      apply ih hbetween.2
      show ((handle', σ.handler) :: σ.handles).lookup handle = some h
      rw [List.lookup_cons, beq_false_of_ne hbetween.1]
      exact hlookup
    | uninstall handle' =>
      rw [installed_uninstall] at hbetween
      exact ih hbetween hlookup

/-- An uninstaller undoes all that was done to the handler since the install of its bridge. -/
theorem handler_after_uninstall (σ : Session) {handle : String} (before : List BridgeCall)
    (e : Emitter) (ownOnly : Bool) {between : List BridgeCall} (h : handle ∉ installed between) :
    (σ.afterCalls (before ++ .install handle e ownOnly :: between ++ [.uninstall handle])).handler =
      (σ.afterCalls before).handler := by
  have hlookup : ((σ.afterCalls before).afterCall (.install handle e ownOnly)).handles.lookup handle =
      some (σ.afterCalls before).handler := by
    show ((handle, _) :: _).lookup handle = _
    rw [List.lookup_cons_self]
  have hkept := lookup_afterCalls h hlookup
  rw [afterCalls_append, afterCalls_append]
  show (Option.getD (List.lookup handle (Session.handles (afterCalls _ between))) _) = _
  rw [hkept]
  rfl

/-- No handler from before the first call is lost under the bridges. -/
theorem depth_le_afterCalls (σ : Session) {calls : List BridgeCall} (h : InOrder calls) :
    σ.handler.depth ≤ (σ.afterCalls calls).handler.depth := by
  induction h using InOrder.induction with
  | nil => exact Nat.le_refl _
  | install calls handle e ownOnly _ ih =>
    rw [afterCalls_append]
    exact Nat.le_succ_of_le ih
  | uninstall before handle e ownOnly between _ _ hbetween ih =>
    rwa [handler_after_uninstall σ before e ownOnly hbetween]

/-- Behind calls in order, the handler is the one from before exactly if the calls fall into stretches. -/
theorem handler_afterCalls_eq_iff (σ : Session) {calls : List BridgeCall} (h : InOrder calls) :
    (σ.afterCalls calls).handler = σ.handler ↔ Stretches calls := by
  induction h using InOrder.induction with
  | nil => exact ⟨fun _ => .nil, fun _ => rfl⟩
  | install calls handle e ownOnly horder ih =>
    -- there is one bridge more than before, and no call takes one from below
    have hdepth := depth_le_afterCalls σ horder.of_append
    refine ⟨fun heq => ?_, fun hs => absurd hs (not_stretches_install calls handle e ownOnly)⟩
    rw [afterCalls_append] at heq
    have hone : (σ.afterCalls calls).handler.depth + 1 = σ.handler.depth := congrArg Handler.depth heq
    omega
  | uninstall before handle e ownOnly between _ hbefore hbetween ih =>
    rw [handler_after_uninstall σ before e ownOnly hbetween, stretches_uninstall_iff hbefore hbetween]
    exact ih

/-- When all bridges have been uninstalled, each once and after its install, the handler is the one that
was current when the bridge that was uninstalled last was installed. This is the handler from before the
first call exactly if the calls fall into stretches. -/
theorem handler_restored_iff {calls : List BridgeCall} (h : Paired calls) (env : Environment)
    (inside : Bool) (σ : Session) :
    let run := Command.runAll env inside (calls.map command) σ
    run.escaped = none ∧ (run.session.handler = σ.handler ↔ Stretches calls) ∧
      ∀ before handle e ownOnly between,
        calls = before ++ .install handle e ownOnly :: between ++ [.uninstall handle] →
        run.session.handler = (Command.runAll env inside (before.map command) σ).session.handler := by
  obtain ⟨hescaped, hsession⟩ := runAll_command env inside calls σ
  intro run
  refine ⟨hescaped, ?_, ?_⟩
  · rw [hsession]
    exact handler_afterCalls_eq_iff σ h.toInOrder
  · rintro before handle e ownOnly between rfl
    have hbetween := h.toInOrder.of_append.not_mem_installed.2
    rw [hsession, (runAll_command env inside before σ).2]
    exact handler_after_uninstall σ before e ownOnly hbetween

/-- Two bridges, of which the one installed first is uninstalled first: it is in place again in the end. -/
theorem handler_restored_iff_of_overlap :
    let calls : List BridgeCall :=
      [.install "first" {} true, .install "second" {} false, .uninstall "first", .uninstall "second"]
    Paired calls ∧
      let run := Command.runAll {} false (calls.map command) { memory := 0 }
      run.escaped = none ∧ run.session.handler = .bridge {} true .base ∧ ¬ Stretches calls := by
  intro calls
  have hpaired : Paired calls := by
    refine ⟨⟨by decide, ?_⟩, by decide⟩
    intro before handle after heq
    rcases before with _ | ⟨_, _ | ⟨_, _ | ⟨_, _ | ⟨_, before⟩⟩⟩⟩ <;> simp [calls] at heq
    · rw [← heq.1, ← heq.2.1, ← heq.2.2.1]
      decide
    · rw [← heq.1, ← heq.2.1, ← heq.2.2.1, ← heq.2.2.2.1]
      decide
  obtain ⟨hescaped, hrestored, hlast⟩ := handler_restored_iff hpaired {} false { memory := 0 }
  have hhandler := hlast [.install "first" {} true] "second" {} false [.uninstall "first"] rfl
  refine ⟨hpaired, hescaped, hhandler, fun hstretches => ?_⟩
  have hbase := hrestored.2 hstretches
  rw [hhandler] at hbase
  cases hbase

end Session

end CodeFrame
