import FirChat.Machine
import FirChat.Payload
import FirChat.Queue

set_option autoImplicit false

namespace FirChat

abbrev ViewId := Nat

-- requested is a ghost: the URL of the latest call on the view.
structure ImageView (Image : Type) where
  image : Option Image := none
  requested : Option String := none

structure Download where
  view : ViewId
  urlString : String
deriving DecidableEq

structure ImageCache (Image : Type) where
  imageCache : AList (fun _ : String => Image) := ∅
  views : ViewId → ImageView Image := fun _ => {}
  downloads : List Download := []
  running : Bool := true

inductive ImageCacheAct where
  | load (view : ViewId) (urlString : String)
  | evict (key : String)
  | complete (k : Nat) (succeeds : Bool)

namespace ImageCache

variable {Image : Type}

def start : ImageCache Image := {}

def setView (s : ImageCache Image) (view : ViewId) (image : ImageView Image) : ImageCache Image :=
  { s with views := Function.update s.views view image }

-- url! traps where URL(string:) gives nothing; parses tells where it does not.
def loadImageUsignCacheWithUrlString (parses : String → Bool) (s : ImageCache Image) (view : ViewId) (urlString : String) :
    ImageCache Image :=
  match s.imageCache.lookup urlString with
  | some cacheImage => s.setView view ⟨some cacheImage, some urlString⟩
  | none =>
      let cleared := s.setView view ⟨none, some urlString⟩
      if parses urlString then { cleared with downloads := s.downloads ++ [⟨view, urlString⟩] }
      else { cleared with running := false }

-- The completion handler and its block on the main queue. picture is what the
-- data behind a URL decodes to, if it does.
def completed (picture : String → Option Image) (s : ImageCache Image) (download : Download) : ImageCache Image :=
  match picture download.urlString with
  | none => s
  | some downloadedImage =>
      { s.setView download.view { s.views download.view with image := some downloadedImage } with
        imageCache := s.imageCache.insert download.urlString downloadedImage }

def act (parses : String → Bool) (picture : String → Option Image) (s : ImageCache Image) :
    ImageCacheAct → Option (ImageCache Image × List Unit)
  | .load view urlString => some (s.loadImageUsignCacheWithUrlString parses view urlString, [])
  | .evict key => some ({ s with imageCache := s.imageCache.erase key }, [])
  | .complete k succeeds =>
      match s.downloads[k]? with
      | none => none
      | some download =>
          let rest := { s with downloads := s.downloads.eraseIdx k }
          some (if succeeds then rest.completed picture download else rest, [])

def step (parses : String → Bool) (picture : String → Option Image) (s : ImageCache Image) (action : ImageCacheAct) :
    Option (ImageCache Image × List Unit) :=
  if s.running then s.act parses picture action else none

def machine (parses : String → Bool) (picture : String → Option Image) :
    Machine (ImageCache Image) ImageCacheAct Unit := ⟨step parses picture⟩

end ImageCache

variable {Image : Type}

def ShowsRequested (picture : String → Option Image) (view : ViewId) (s : ImageCache Image) : Prop :=
  ∀ image, (s.views view).image = some image → (s.views view).requested.bind picture = some image

def ComesForRequest (picture : String → Option Image) (view : ViewId) (s : ImageCache Image) : ImageCacheAct → Prop
  | .complete k true => ∀ download ∈ s.downloads[k]?, download.view = view → picture download.urlString ≠ none →
      (s.views view).requested.bind picture = picture download.urlString
  | _ => True

instance [DecidableEq Image] (picture : String → Option Image) (view : ViewId) (s : ImageCache Image) :
    ∀ act, Decidable (ComesForRequest picture view s act)
  | .load _ _ => isTrue trivial
  | .evict _ => isTrue trivial
  | .complete _ false => isTrue trivial
  | .complete k true => inferInstanceAs (Decidable (∀ download ∈ s.downloads[k]?, download.view = view →
      picture download.urlString ≠ none → (s.views view).requested.bind picture = picture download.urlString))

def SoundCache (picture : String → Option Image) (s : ImageCache Image) : Prop :=
  ∀ urlString image, s.imageCache.lookup urlString = some image → picture urlString = some image

inductive ImageEffect (parses : String → Bool) (picture : String → Option Image) (s : ImageCache Image) :
    ImageCacheAct → ImageCache Image → Prop where
  | cached (view : ViewId) (urlString : String) (cacheImage : Image) (hit : s.imageCache.lookup urlString = some cacheImage) :
      ImageEffect parses picture s (.load view urlString) (s.setView view ⟨some cacheImage, some urlString⟩)
  | cleared (view : ViewId) (urlString : String) (downloads : List Download) (running : Bool) :
      ImageEffect parses picture s (.load view urlString)
        { s.setView view ⟨none, some urlString⟩ with downloads := downloads, running := running }
  | evicted (key : String) : ImageEffect parses picture s (.evict key) { s with imageCache := s.imageCache.erase key }
  | failed (k : Nat) (succeeds : Bool) (download : Download) (here : s.downloads[k]? = some download)
      (nothing : succeeds = false ∨ picture download.urlString = none) :
      ImageEffect parses picture s (.complete k succeeds) { s with downloads := s.downloads.eraseIdx k }
  | came (k : Nat) (download : Download) (downloadedImage : Image) (here : s.downloads[k]? = some download)
      (decoded : picture download.urlString = some downloadedImage) :
      ImageEffect parses picture s (.complete k true)
        { s.setView download.view { s.views download.view with image := some downloadedImage } with
          downloads := s.downloads.eraseIdx k
          imageCache := s.imageCache.insert download.urlString downloadedImage }

theorem image_step_cases (parses : String → Bool) (picture : String → Option Image) (s next : ImageCache Image)
    (act : ImageCacheAct) (out : List Unit)
    (stepped : (ImageCache.machine parses picture).step s act = some (next, out)) :
    ImageEffect parses picture s act next := by
  change s.step parses picture act = some (next, out) at stepped
  unfold ImageCache.step at stepped
  split at stepped
  case isFalse => cases stepped
  cases act with
  | load view urlString =>
      cases stepped
      unfold ImageCache.loadImageUsignCacheWithUrlString
      split
      · rename_i cacheImage hit
        exact .cached view urlString cacheImage hit
      · dsimp only
        split
        · exact .cleared view urlString _ _
        · exact .cleared view urlString _ _
  | evict key =>
      cases stepped
      exact .evicted key
  | complete k succeeds =>
      simp only [ImageCache.act] at stepped
      split at stepped
      · cases stepped
      · rename_i download here
        cases stepped
        cases succeeds with
        | false => exact .failed k false download here (Or.inl rfl)
        | true =>
            rw [if_pos rfl, ImageCache.completed]
            split
            · rename_i undecodable
              exact .failed k true download here (Or.inr undecodable)
            · rename_i downloadedImage decoded
              exact .came k download downloadedImage here decoded

theorem sound_cache_step (parses : String → Bool) (picture : String → Option Image) (s : ImageCache Image)
    (act : ImageCacheAct) (next : ImageCache Image) (out : List Unit) (sound : SoundCache picture s)
    (stepped : (ImageCache.machine parses picture).step s act = some (next, out)) : SoundCache picture next := by
  cases image_step_cases parses picture s next act out stepped with
  | cached => exact sound
  | cleared => exact sound
  | evicted key =>
      intro urlString image stored
      by_cases same : urlString = key
      · rw [same, AList.lookup_erase] at stored
        cases stored
      · rw [AList.lookup_erase_ne same] at stored
        exact sound urlString image stored
  | failed => exact sound
  | came k download downloadedImage here decoded =>
      intro urlString image stored
      by_cases same : urlString = download.urlString
      · rw [same, AList.lookup_insert] at stored
        rw [same, decoded, stored]
      · rw [AList.lookup_insert_ne same] at stored
        exact sound urlString image stored

theorem set_view_same (s : ImageCache Image) (view : ViewId) (image : ImageView Image) :
    (s.setView view image).views view = image := by
  simp [ImageCache.setView]

theorem set_view_other (s : ImageCache Image) (view other : ViewId) (image : ImageView Image) (different : other ≠ view) :
    (s.setView view image).views other = s.views other := by
  simp [ImageCache.setView, different]

theorem shows_requested_set (picture : String → Option Image) (view target : ViewId) (s : ImageCache Image)
    (image : ImageView Image) (shows : ShowsRequested picture view s) :
    ShowsRequested picture view (s.setView target image) ↔
      (view = target → ∀ shown, image.image = some shown → image.requested.bind picture = some shown) := by
  by_cases same : view = target
  · subst target
    simp [ShowsRequested, set_view_same]
  · simp only [ShowsRequested, set_view_other s target view image same]
    exact iff_of_true shows (fun equal => absurd equal same)

theorem shows_requested_iff (parses : String → Bool) (picture : String → Option Image) (view : ViewId)
    (s : ImageCache Image) (act : ImageCacheAct) (next : ImageCache Image) (out : List Unit) (sound : SoundCache picture s)
    (shows : ShowsRequested picture view s)
    (stepped : (ImageCache.machine parses picture).step s act = some (next, out)) :
    ShowsRequested picture view next ↔ ComesForRequest picture view s act := by
  cases image_step_cases parses picture s next act out stepped with
  | cached target urlString cacheImage hit =>
      refine iff_of_true ((shows_requested_set picture view target s _ shows).mpr ?_) trivial
      intro _ shown here
      obtain rfl := Option.some.inj here
      exact sound urlString cacheImage hit
  | cleared target urlString downloads running =>
      refine iff_of_true ((shows_requested_set picture view target s _ shows).mpr ?_) trivial
      intro _ shown here
      cases here
  | evicted key => exact iff_of_true shows trivial
  | failed k succeeds download here nothing =>
      refine iff_of_true shows ?_
      cases succeeds with
      | false => trivial
      | true =>
          intro other found _ decodes
          obtain rfl := Option.some.inj (here.symm.trans found)
          exact absurd (nothing.resolve_left (by decide)) decodes
  | came k download downloadedImage here decoded =>
      have set := shows_requested_set picture view download.view s
        { s.views download.view with image := some downloadedImage } shows
      refine set.trans ?_
      simp only [ComesForRequest, here, Option.mem_def, Option.some.injEq, forall_eq', decoded, ne_eq, reduceCtorEq,
        not_false_eq_true, forall_const]
      constructor
      · exact fun given same => same ▸ given same.symm
      · exact fun given same => same ▸ given same.symm

theorem view_shows_requested (parses : String → Bool) (picture : String → Option Image) (view : ViewId)
    (acts : List ImageCacheAct) (finish : ImageCache Image) (out : List Unit)
    (ran : (ImageCache.machine parses picture).run ImageCache.start acts = some (finish, out)) :
    (ImageCache.machine parses picture).Always (ShowsRequested picture view) ImageCache.start acts ↔
      (ImageCache.machine parses picture).Along (ComesForRequest picture view) ImageCache.start acts :=
  Machine.always_iff_along (ImageCache.machine parses picture) (SoundCache picture) (ShowsRequested picture view)
    (ComesForRequest picture view) (sound_cache_step parses picture) (shows_requested_iff parses picture view) acts
    ImageCache.start finish out (by simp [SoundCache, ImageCache.start]) (by simp [ShowsRequested, ImageCache.start]) ran

def loadedInTurn : List ImageCacheAct :=
  [.load 0 "bob.jpg", .load 1 "eve.jpg", .complete 1 true, .complete 0 true, .evict "bob.jpg", .load 0 "eve.jpg"]

theorem view_shows_requested_in_turn :
    (∃ finish out, (ImageCache.machine (fun _ => true) some).run ImageCache.start loadedInTurn = some (finish, out) ∧
      (finish.views 0).image = some "eve.jpg") ∧
    (ImageCache.machine (fun _ => true) some).Always (ShowsRequested some 0) ImageCache.start loadedInTurn :=
  ⟨⟨_, _, rfl, rfl⟩, (view_shows_requested (fun _ => true) some 0 loadedInTurn _ _ rfl).mpr (by decide)⟩

def loadedOutOfTurn : List ImageCacheAct :=
  [.load 0 "bob.jpg", .load 0 "eve.jpg", .complete 1 true, .complete 0 true]

theorem view_shows_another_picture :
    ¬ ∀ (parses : String → Bool) (picture : String → Option String) view acts finish out,
      (ImageCache.machine parses picture).run ImageCache.start acts = some (finish, out) →
      (ImageCache.machine parses picture).Always (ShowsRequested picture view) ImageCache.start acts := by
  intro all
  have always := all (fun _ => true) some 0 loadedOutOfTurn _ _ rfl
  have shows := Machine.always_at _ _ loadedOutOfTurn [] ImageCache.start _ _ always rfl
  exact absurd (shows "bob.jpg" rfl) (by decide)

def ImageCacheAct.Asks (asked : ViewId → String → Prop) : ImageCacheAct → Prop
  | .load view urlString => asked view urlString
  | _ => True

structure Fetched (picture : String → Option Image) (asked : ViewId → String → Prop) (s : ImageCache Image) : Prop where
  cache : ∀ urlString image, s.imageCache.lookup urlString = some image →
    picture urlString = some image ∧ ∃ view, asked view urlString
  downloads : ∀ download ∈ s.downloads, asked download.view download.urlString
  views : ∀ view image, (s.views view).image = some image → ∃ urlString, asked view urlString ∧ picture urlString = some image

theorem fetched_start (picture : String → Option Image) (asked : ViewId → String → Prop) :
    Fetched picture asked ImageCache.start where
  cache := by simp [ImageCache.start]
  downloads := by simp [ImageCache.start]
  views := by simp [ImageCache.start]

theorem views_asked_set (picture : String → Option Image) (asked : ViewId → String → Prop) (s : ImageCache Image)
    (target : ViewId) (image : ImageView Image) (fetched : Fetched picture asked s)
    (fits : ∀ shown, image.image = some shown → ∃ urlString, asked target urlString ∧ picture urlString = some shown) :
    ∀ view shown, ((s.setView target image).views view).image = some shown →
      ∃ urlString, asked view urlString ∧ picture urlString = some shown := by
  intro view shown here
  by_cases same : view = target
  · subst view
    rw [set_view_same] at here
    exact fits shown here
  · rw [set_view_other s target view image same] at here
    exact fetched.views view shown here

theorem fetched_load (parses : String → Bool) (picture : String → Option Image) (asked : ViewId → String → Prop)
    (s : ImageCache Image) (view : ViewId) (urlString : String) (fetched : Fetched picture asked s)
    (asks : asked view urlString) : Fetched picture asked (s.loadImageUsignCacheWithUrlString parses view urlString) := by
  unfold ImageCache.loadImageUsignCacheWithUrlString
  split
  · rename_i cacheImage hit
    refine ⟨fetched.cache, fetched.downloads, views_asked_set picture asked s view _ fetched (fun shown same => ?_)⟩
    obtain rfl := Option.some.inj same
    exact ⟨urlString, asks, (fetched.cache urlString cacheImage hit).1⟩
  · have cleared := views_asked_set picture asked s view ⟨none, some urlString⟩ fetched (fun _ none => by cases none)
    dsimp only
    split
    · exact ⟨fetched.cache, Queue.forall_behind _ s.downloads ⟨view, urlString⟩ fetched.downloads asks, cleared⟩
    · exact ⟨fetched.cache, fetched.downloads, cleared⟩

theorem fetched_step (parses : String → Bool) (picture : String → Option Image) (asked : ViewId → String → Prop)
    (s : ImageCache Image) (act : ImageCacheAct) (next : ImageCache Image) (out : List Unit)
    (fetched : Fetched picture asked s) (asks : act.Asks asked)
    (stepped : (ImageCache.machine parses picture).step s act = some (next, out)) : Fetched picture asked next := by
  have erased (k : Nat) : ∀ download ∈ s.downloads.eraseIdx k, asked download.view download.urlString :=
    fun download member => fetched.downloads download (List.mem_of_mem_eraseIdx member)
  cases act with
  | load view urlString =>
      change s.step parses picture _ = some (next, out) at stepped
      unfold ImageCache.step at stepped
      split at stepped
      · cases stepped
        exact fetched_load parses picture asked s view urlString fetched asks
      · cases stepped
  | evict key =>
      cases image_step_cases parses picture s next _ out stepped
      refine ⟨fun urlString image stored => ?_, fetched.downloads, fetched.views⟩
      by_cases same : urlString = key
      · rw [same, AList.lookup_erase] at stored
        cases stored
      · rw [AList.lookup_erase_ne same] at stored
        exact fetched.cache urlString image stored
  | complete k succeeds =>
      cases image_step_cases parses picture s next _ out stepped with
      | failed => exact ⟨fetched.cache, erased k, fetched.views⟩
      | came _ download downloadedImage here decoded =>
          have asking := fetched.downloads download (List.mem_of_getElem? here)
          refine ⟨fun urlString image stored => ?_, erased k,
            views_asked_set picture asked s download.view _ fetched (fun shown same => ?_)⟩
          · by_cases same : urlString = download.urlString
            · rw [same, AList.lookup_insert] at stored
              rw [same, decoded, stored]
              exact ⟨rfl, download.view, asking⟩
            · rw [AList.lookup_insert_ne same] at stored
              exact fetched.cache urlString image stored
          · obtain rfl := Option.some.inj same
            exact ⟨download.urlString, asking, decoded⟩

def Answered (s : ImageCache Image) : Prop :=
  ∀ view, (s.views view).requested ≠ none →
    (s.views view).image ≠ none ∨ ∃ download ∈ s.downloads, download.view = view

def ImageCacheAct.isFailure : ImageCacheAct → Bool
  | .complete _ succeeds => !succeeds
  | _ => false

theorem answered_step (parses : String → Bool) (picture : String → Option Image) (asked : ViewId → String → Prop)
    (s : ImageCache Image) (act : ImageCacheAct) (next : ImageCache Image) (out : List Unit)
    (fetched : Fetched picture asked s) (answered : Answered s) (asks : act.Asks asked) (succeeds : act.isFailure = false)
    (loads : ∀ view urlString, asked view urlString → parses urlString = true ∧ picture urlString ≠ none)
    (stepped : (ImageCache.machine parses picture).step s act = some (next, out)) : Answered next := by
  intro other
  cases act with
  | load view urlString =>
      change s.step parses picture _ = some (next, out) at stepped
      unfold ImageCache.step at stepped
      split at stepped
      case isFalse => cases stepped
      cases stepped
      unfold ImageCache.loadImageUsignCacheWithUrlString
      split
      · by_cases same : other = view
        · subst other
          rw [set_view_same]
          exact fun _ => Or.inl (Option.some_ne_none _)
        · rw [set_view_other s view other _ same]
          exact answered other
      · dsimp only
        rw [if_pos (loads view urlString asks).1]
        intro requested
        by_cases same : other = view
        · exact Or.inr ⟨⟨view, urlString⟩, by simp, same.symm⟩
        · dsimp only at requested ⊢
          rw [set_view_other s view other _ same] at requested ⊢
          rcases answered other requested with shown | ⟨download, member, mine⟩
          · exact Or.inl shown
          · exact Or.inr ⟨download, List.mem_append_left _ member, mine⟩
  | evict key =>
      cases image_step_cases parses picture s next _ out stepped
      exact answered other
  | complete k succeeded =>
      cases image_step_cases parses picture s next _ out stepped with
      | failed _ _ download here nothing =>
          rcases nothing with failed | undecodable
          · rw [failed] at succeeds
            cases succeeds
          · have asking := fetched.downloads download (List.mem_of_getElem? here)
            exact absurd undecodable (loads _ _ asking).2
      | came _ download downloadedImage here decoded =>
          intro requested
          by_cases same : other = download.view
          · subst other
            refine Or.inl ?_
            dsimp only
            rw [set_view_same]
            exact Option.some_ne_none _
          · dsimp only at requested ⊢
            rw [set_view_other s download.view other _ same] at requested ⊢
            rcases answered other requested with shown | ⟨waiting, member, mine⟩
            · exact Or.inl shown
            · refine Or.inr ⟨waiting, Queue.mem_erase_other s.downloads k download waiting here (fun equal => ?_) member,
                mine⟩
              rw [equal] at mine
              exact same mine.symm

-- Views share the cache and their cells are used again, so a picture may come
-- late; but it is one that this very view was asked for, and where no download
-- fails a view that waits for none shows some picture.
theorem shown_pictures_were_requested (parses : String → Bool) (picture : String → Option Image)
    (acts : List ImageCacheAct) (finish : ImageCache Image) (out : List Unit)
    (ran : (ImageCache.machine parses picture).run ImageCache.start acts = some (finish, out)) :
    (∀ view image, (finish.views view).image = some image →
      ∃ urlString, .load view urlString ∈ acts ∧ picture urlString = some image) ∧
    (∀ urlString image, finish.imageCache.lookup urlString = some image →
      picture urlString = some image ∧ ∃ view, .load view urlString ∈ acts) ∧
    ((∀ view urlString, .load view urlString ∈ acts → parses urlString = true ∧ picture urlString ≠ none) →
      (∀ act ∈ acts, act.isFailure = false) →
      ∀ view, (finish.views view).requested ≠ none → (∀ download ∈ finish.downloads, download.view ≠ view) →
        (finish.views view).image ≠ none) := by
  have asks : ∀ act ∈ acts, act.Asks (fun view urlString => .load view urlString ∈ acts) := by
    intro act member
    cases act with
    | load view urlString => exact member
    | _ => trivial
  have fetched := Machine.history_forall (ImageCache.machine parses picture)
    (fun s _ => Fetched picture (fun view urlString => .load view urlString ∈ acts) s)
    (ImageCacheAct.Asks (fun view urlString => .load view urlString ∈ acts))
    (fun s _ act next out fetched asked stepped => fetched_step parses picture _ s act next out fetched asked stepped)
    acts ImageCache.start finish out (fetched_start picture _) asks ran
  refine ⟨fetched.views, fetched.cache, fun loads succeed view requested idle => ?_⟩
  have both := Machine.history_forall (ImageCache.machine parses picture)
    (fun s _ => Fetched picture (fun view urlString => .load view urlString ∈ acts) s ∧ Answered s)
    (fun act => act.Asks (fun view urlString => .load view urlString ∈ acts) ∧ act.isFailure = false)
    (fun s _ act next out holds cond stepped =>
      ⟨fetched_step parses picture _ s act next out holds.1 cond.1 stepped,
        answered_step parses picture _ s act next out holds.1 holds.2 cond.1 cond.2 loads stepped⟩)
    acts ImageCache.start finish out ⟨fetched_start picture _, fun _ requested => absurd rfl requested⟩
    (fun act member => ⟨asks act member, succeed act member⟩) ran
  refine (both.2 view requested).resolve_right (fun waiting => ?_)
  obtain ⟨download, member, mine⟩ := waiting
  exact idle download member mine

theorem shown_pictures_were_requested_in_turn :
    ∃ finish out, (ImageCache.machine (fun _ => true) some).run ImageCache.start loadedInTurn = some (finish, out) ∧
      (finish.views 0).image ≠ none ∧
      ∀ view image, (finish.views view).image = some image → ∃ urlString, .load view urlString ∈ loadedInTurn := by
  have shown := shown_pictures_were_requested (fun _ => true) some loadedInTurn _ _ rfl
  refine ⟨_, _, rfl, shown.2.2 (fun _ _ _ => ⟨rfl, Option.some_ne_none _⟩) (by decide) 0 (Option.some_ne_none _) (by decide),
    fun view image here => ?_⟩
  obtain ⟨urlString, member, _⟩ := shown.1 view image here
  exact ⟨urlString, member⟩

end FirChat
