import FirChat.ImageCache

set_option autoImplicit false

namespace FirChat

-- The views that a zoom makes share its number.
inductive WindowView where
  | other (id : Nat)
  | background (zoom : Nat)
  | zoomed (zoom : Nat)
deriving DecidableEq

def WindowView.stays : WindowView → Bool
  | .zoomed _ => false
  | _ => true

-- alpha is that of the backgrounds; completions are the zoom-out animations
-- still to end; hid is a ghost. Frames are left out.
structure Zoom where
  subviews : List WindowView
  alpha : Nat → Nat := fun _ => 0
  inputAlpha : Nat := 1
  isHidden : ViewId → Bool := fun _ => false
  startingImageView : Option ViewId := none
  zoomBackgroud : Option Nat := none
  completions : List Nat := []
  zooms : Nat := 0
  hid : List ViewId := []

inductive ZoomAct where
  | performZoom (startingImageView : ViewId) (keyWindow : Bool)
  | performZoomOut (zoom : Nat)
  | animationCompleted (k : Nat)

namespace Zoom

def start (isHidden : ViewId → Bool) (before : List Nat) : Zoom :=
  { subviews := before.map WindowView.other, isHidden := isHidden }

-- An animation block runs at once: only what is drawn changes gradually.
def performZoom (s : Zoom) (startingImageView : ViewId) (keyWindow : Bool) : Zoom :=
  let started := { s with
    startingImageView := some startingImageView
    isHidden := Function.update s.isHidden startingImageView true
    hid := s.hid ++ [startingImageView] }
  if keyWindow then
    { started with
      zoomBackgroud := some s.zooms
      subviews := s.subviews ++ [.background s.zooms, .zoomed s.zooms]
      alpha := Function.update s.alpha s.zooms 1
      inputAlpha := 0
      zooms := s.zooms + 1 }
  else started

def performZoomOut (s : Zoom) (zoom : Nat) : Zoom :=
  { s with
    alpha := match s.zoomBackgroud with
      | none => s.alpha
      | some background => Function.update s.alpha background 0
    inputAlpha := 1
    completions := s.completions ++ [zoom] }

-- The completion reads startingImageView as it is by then.
def completed (s : Zoom) (k zoom : Nat) : Zoom :=
  { s with
    completions := s.completions.eraseIdx k
    subviews := s.subviews.filter (fun view => decide (view ≠ .zoomed zoom))
    isHidden := match s.startingImageView with
      | none => s.isHidden
      | some view => Function.update s.isHidden view false }

def step (s : Zoom) : ZoomAct → Option (Zoom × List Unit)
  | .performZoom startingImageView keyWindow => some (s.performZoom startingImageView keyWindow, [])
  | .performZoomOut zoom => if .zoomed zoom ∈ s.subviews then some (s.performZoomOut zoom, []) else none
  | .animationCompleted k =>
      match s.completions[k]? with
      | none => none
      | some zoom => some (s.completed k zoom, [])

def machine : Machine Zoom ZoomAct Unit := ⟨step⟩

def Zoomed (s : Zoom) : Prop := ∃ zoom, WindowView.zoomed zoom ∈ s.subviews

end Zoom

theorem zoomed_iff (s : Zoom) : (∃ view ∈ s.subviews, view.stays = false) ↔ s.Zoomed := by
  constructor
  · intro given
    obtain ⟨view, here, leaves⟩ := given
    cases view with
    | zoomed zoom => exact ⟨zoom, here⟩
    | other id => cases leaves
    | background zoom => cases leaves
  · intro given
    obtain ⟨zoom, here⟩ := given
    exact ⟨.zoomed zoom, here, rfl⟩

instance (s : Zoom) : Decidable s.Zoomed := decidable_of_iff (∃ view ∈ s.subviews, view.stays = false) (zoomed_iff s)

def Restored (before : List Nat) (s : Zoom) : Prop :=
  ¬ s.Zoomed → s.subviews = before.map WindowView.other ∧ s.inputAlpha = 1 ∧ ∀ view ∈ s.hid, s.isHidden view = false

def StaysZoomed (s : Zoom) : ZoomAct → Prop
  | .performZoom _ keyWindow => keyWindow = true ∨ s.Zoomed
  | .performZoomOut _ => True
  | .animationCompleted k => ∀ zoom ∈ s.completions[k]?, ∃ other, other ≠ zoom ∧ WindowView.zoomed other ∈ s.subviews

def Apart (s : Zoom) : ZoomAct → Prop
  | .performZoom _ keyWindow => keyWindow = true ∧ ¬ s.Zoomed
  | _ => True

inductive ZoomEffect (s : Zoom) : ZoomAct → Zoom → Prop where
  | zoomed (view : ViewId) :
      ZoomEffect s (.performZoom view true) (s.performZoom view true)
  | unseen (view : ViewId) : ZoomEffect s (.performZoom view false) (s.performZoom view false)
  | tapped (zoom : Nat) (here : WindowView.zoomed zoom ∈ s.subviews) :
      ZoomEffect s (.performZoomOut zoom) (s.performZoomOut zoom)
  | completed (k zoom : Nat) (waiting : s.completions[k]? = some zoom) :
      ZoomEffect s (.animationCompleted k) (s.completed k zoom)

theorem zoom_step_cases (s next : Zoom) (act : ZoomAct) (out : List Unit)
    (stepped : Zoom.machine.step s act = some (next, out)) : ZoomEffect s act next := by
  cases act with
  | performZoom view keyWindow =>
      cases stepped
      cases keyWindow with
      | true => exact .zoomed view
      | false => exact .unseen view
  | performZoomOut zoom =>
      simp only [Zoom.machine, Zoom.step] at stepped
      split at stepped
      · rename_i here
        cases stepped
        exact .tapped zoom here
      · cases stepped
  | animationCompleted k =>
      simp only [Zoom.machine, Zoom.step] at stepped
      split at stepped
      · cases stepped
      · rename_i zoom waiting
        cases stepped
        exact .completed k zoom waiting

-- Every zoom has left its background in the window. The input container is
-- transparent only while some zoomed view has not been tapped.
structure Zooming (before : List Nat) (s : Zoom) : Prop where
  rest : s.subviews.filter WindowView.stays = before.map WindowView.other ++ (List.range s.zooms).map WindowView.background
  made : ∀ zoom, WindowView.zoomed zoom ∈ s.subviews → zoom < s.zooms
  tapped : ∀ zoom ∈ s.completions, zoom < s.zooms
  dark : s.inputAlpha ≠ 1 → ∃ zoom, WindowView.zoomed zoom ∈ s.subviews ∧ zoom ∉ s.completions

theorem filter_stays_before (before : List Nat) :
    (before.map WindowView.other).filter WindowView.stays = before.map WindowView.other := by
  rw [List.filter_eq_self]
  intro view member
  obtain ⟨id, _, rfl⟩ := List.mem_map.mp member
  rfl

theorem zooming_start (isHidden : ViewId → Bool) (before : List Nat) : Zooming before (Zoom.start isHidden before) := by
  refine ⟨?_, by simp [Zoom.start], by simp [Zoom.start], fun dark => absurd rfl dark⟩
  rw [Zoom.start, filter_stays_before]
  simp

theorem filter_stays_removed (subviews : List WindowView) (zoom : Nat) :
    (subviews.filter (fun view => decide (view ≠ .zoomed zoom))).filter WindowView.stays =
      subviews.filter WindowView.stays := by
  rw [List.filter_filter]
  apply List.filter_congr
  intro view _
  cases view <;> simp [WindowView.stays]

theorem unzoomed_subviews (before : List Nat) (s : Zoom) (zooming : Zooming before s) (gone : ¬ s.Zoomed) :
    s.subviews = before.map WindowView.other ++ (List.range s.zooms).map WindowView.background := by
  rw [← zooming.rest, eq_comm, List.filter_eq_self]
  intro view member
  cases view with
  | other id => rfl
  | background zoom => rfl
  | zoomed zoom => exact absurd ⟨zoom, member⟩ gone

theorem zoomed_perform (s : Zoom) (view : ViewId) : WindowView.zoomed s.zooms ∈ (s.performZoom view true).subviews := by
  simp [Zoom.performZoom]

theorem zoomed_completed (s : Zoom) (k zoom other : Nat) :
    WindowView.zoomed other ∈ (s.completed k zoom).subviews ↔ WindowView.zoomed other ∈ s.subviews ∧ other ≠ zoom := by
  simp [Zoom.completed]

theorem completed_shows (s : Zoom) (k zoom : Nat) (view : ViewId) (starting : s.startingImageView = some view) :
    (s.completed k zoom).isHidden view = false := by
  simp [Zoom.completed, starting]

theorem completed_keeps (s : Zoom) (k zoom : Nat) (view : ViewId) (other : s.startingImageView ≠ some view) :
    (s.completed k zoom).isHidden view = s.isHidden view := by
  cases starting : s.startingImageView with
  | none => simp [Zoom.completed, starting]
  | some last =>
      have different : view ≠ last := fun same => other (starting.trans (congrArg some same.symm))
      simp [Zoom.completed, starting, different]

theorem zooming_step (before : List Nat) (s : Zoom) (act : ZoomAct) (next : Zoom) (out : List Unit)
    (zooming : Zooming before s) (stepped : Zoom.machine.step s act = some (next, out)) : Zooming before next := by
  obtain ⟨rest, made, tapped, dark⟩ := zooming
  cases zoom_step_cases s next act out stepped with
  | zoomed view =>
      have added : [WindowView.background s.zooms, .zoomed s.zooms].filter WindowView.stays = [.background s.zooms] := rfl
      refine ⟨?_, fun zoom here => ?_, fun zoom waiting => Nat.lt_succ_of_lt (tapped zoom waiting), fun _ => ?_⟩
      · simp [Zoom.performZoom, rest, added, List.range_succ]
      · rcases List.mem_append.mp here with old | new
        · exact Nat.lt_succ_of_lt (made zoom old)
        · obtain rfl : zoom = s.zooms := by simpa using new
          exact Nat.lt_succ_self s.zooms
      · exact ⟨s.zooms, zoomed_perform s view, fun waiting => Nat.lt_irrefl _ (tapped s.zooms waiting)⟩
  | unseen view => exact ⟨rest, made, tapped, dark⟩
  | tapped zoom here =>
      exact ⟨rest, made, Queue.forall_behind _ s.completions zoom tapped (made zoom here), fun light => absurd rfl light⟩
  | completed k zoom waiting =>
      refine ⟨?_, fun other here => ?_, fun other member => tapped other (List.mem_of_mem_eraseIdx member), fun darkened => ?_⟩
      · exact (filter_stays_removed s.subviews zoom).trans rest
      · exact made other ((zoomed_completed s k zoom other).mp here).1
      · obtain ⟨other, here, untapped⟩ := dark darkened
        have different : other ≠ zoom := fun same => untapped (same ▸ List.mem_of_getElem? waiting)
        exact ⟨other, (zoomed_completed s k zoom other).mpr ⟨here, different⟩,
          fun member => untapped (List.mem_of_mem_eraseIdx member)⟩

theorem undarkened (before : List Nat) (s : Zoom) (zooming : Zooming before s) (gone : ¬ s.Zoomed) : s.inputAlpha = 1 := by
  by_contra dark
  obtain ⟨zoom, here, _⟩ := zooming.dark dark
  exact gone ⟨zoom, here⟩

theorem restored_zooms (before : List Nat) (s : Zoom) (zooming : Zooming before s) (restored : Restored before s)
    (gone : ¬ s.Zoomed) : s.zooms = 0 := by
  have same := (restored gone).1
  rw [unzoomed_subviews before s zooming gone] at same
  simpa using same

theorem restored_iff (before : List Nat) (s : Zoom) (act : ZoomAct) (next : Zoom) (out : List Unit)
    (zooming : Zooming before s) (stepped : Zoom.machine.step s act = some (next, out)) :
    Restored before next ↔ StaysZoomed s act := by
  have kept := zooming_step before s act next out zooming stepped
  cases zoom_step_cases s next act out stepped with
  | zoomed view => exact iff_of_true (fun gone => absurd ⟨s.zooms, zoomed_perform s view⟩ gone) (Or.inl rfl)
  | unseen view =>
      simp only [StaysZoomed, Bool.false_eq_true, false_or]
      constructor
      · intro undone
        by_contra gone
        have seen := (undone gone).2.2 view (by simp [Zoom.performZoom])
        simp [Zoom.performZoom] at seen
      · exact fun zoomed gone => absurd zoomed gone
  | tapped zoom here => exact iff_of_true (fun gone => absurd ⟨zoom, here⟩ gone) trivial
  | completed k zoom waiting =>
      have zoomed := zoomed_completed s k zoom
      simp only [StaysZoomed, waiting, Option.mem_def, Option.some.injEq, forall_eq']
      constructor
      · intro undone
        by_contra alone
        have gone : ¬ (s.completed k zoom).Zoomed := fun left =>
          alone (left.imp fun other here => ((zoomed other).mp here).symm)
        have none := restored_zooms before _ kept undone gone
        exact Nat.not_lt_zero zoom (none ▸ zooming.tapped zoom (List.mem_of_getElem? waiting))
      · intro others gone
        obtain ⟨other, different, here⟩ := others
        exact absurd ⟨other, (zoomed other).mpr ⟨here, different⟩⟩ gone

-- Of the image views that zooms have hidden, only the last can still be hidden.
structure Covered (s : Zoom) : Prop where
  hidden : ∀ view ∈ s.hid, s.isHidden view = true → s.startingImageView = some view ∧ s.Zoomed

theorem covered_step (s : Zoom) (act : ZoomAct) (next : Zoom) (out : List Unit) (covered : Covered s)
    (apart : Apart s act) (stepped : Zoom.machine.step s act = some (next, out)) : Covered next := by
  cases zoom_step_cases s next act out stepped with
  | zoomed view =>
      refine ⟨fun other member hides => ?_⟩
      have same : other = view := by
        by_contra different
        rcases List.mem_append.mp member with old | new
        · have before : s.isHidden other = true := by simpa [Zoom.performZoom, different] using hides
          exact apart.2 (covered.hidden other old before).2
        · exact different (List.mem_singleton.mp new)
      exact ⟨by simp [Zoom.performZoom, same], s.zooms, zoomed_perform s view⟩
  | unseen view => exact absurd apart.1 (by decide)
  | tapped zoom here => exact ⟨covered.hidden⟩
  | completed k zoom waiting =>
      refine ⟨fun view member hides => ?_⟩
      exfalso
      by_cases starting : s.startingImageView = some view
      · rw [completed_shows s k zoom view starting] at hides
        cases hides
      · rw [completed_keeps s k zoom view starting] at hides
        exact starting (covered.hidden view member hides).1

theorem zoom_out_undoes_zoom (isHidden : ViewId → Bool) (before : List Nat) (acts : List ZoomAct) (finish : Zoom)
    (out : List Unit) (ran : Zoom.machine.run (Zoom.start isHidden before) acts = some (finish, out)) :
    (Zoom.machine.Always (Restored before) (Zoom.start isHidden before) acts ↔
      Zoom.machine.Along StaysZoomed (Zoom.start isHidden before) acts) ∧
    (¬ finish.Zoomed → finish.inputAlpha = 1 ∧ finish.subviews =
      before.map WindowView.other ++ (List.range finish.zooms).map WindowView.background) ∧
    (Zoom.machine.Along Apart (Zoom.start isHidden before) acts → ¬ finish.Zoomed →
      ∀ view ∈ finish.hid, finish.isHidden view = false) := by
  have started := zooming_start isHidden before
  have zooming := Machine.invariant_run Zoom.machine (Zooming before) (zooming_step before) acts
    (Zoom.start isHidden before) finish out started ran
  refine ⟨?_, fun gone => ⟨undarkened before finish zooming gone, unzoomed_subviews before finish zooming gone⟩, ?_⟩
  · exact Machine.always_iff_along Zoom.machine (Zooming before) (Restored before) StaysZoomed (zooming_step before)
      (fun s act next later holds _ stepped => restored_iff before s act next later holds stepped) acts
      (Zoom.start isHidden before) finish out started (fun _ => ⟨rfl, rfl, by simp [Zoom.start]⟩) ran
  · intro apart gone view member
    have covered := Machine.invariant_along Zoom.machine Covered Apart covered_step acts
      (Zoom.start isHidden before) finish out ⟨by simp [Zoom.start]⟩ apart ran
    by_contra hidden
    exact gone (covered.hidden view member (by simpa using hidden)).2

def zoomOnce : List ZoomAct := [.performZoom 7 true, .performZoomOut 0, .animationCompleted 0]

theorem zoom_out_undoes_zoom_once :
    ∃ finish out, Zoom.machine.run (Zoom.start (fun _ => false) [0]) zoomOnce = some (finish, out) ∧
      finish.inputAlpha = 1 ∧ finish.subviews = [.other 0, .background 0] := by
  obtain ⟨alpha, left⟩ := (zoom_out_undoes_zoom (fun _ => false) [0] zoomOnce _ _ rfl).2.1 (by decide)
  exact ⟨_, _, rfl, alpha, left⟩

theorem background_stays :
    ¬ ∀ isHidden before acts finish out,
      Zoom.machine.run (Zoom.start isHidden before) acts = some (finish, out) →
      Zoom.machine.Always (Restored before) (Zoom.start isHidden before) acts := by
  intro all
  have always := all (fun _ => false) [0] zoomOnce _ _ rfl
  have restored := Machine.always_at _ _ zoomOnce [] _ _ _ always rfl
  exact absurd (restored (by decide)).1 (by decide)

end FirChat
