import SqlWire.LogFiles
import SqlWire.Stateful
/-!
# Setting up log files

A set-up only adds directories and files, wherever it fails: what stood in the tree still stands there
(`FileTree.Grows.node?`). One that succeeds has a file to write on, and one that fails changes nothing
but the tree (`LogFiles.setUp_spec`).
-/
namespace SqlWire

open Stateful

/-! ## Trees that grow -/

namespace FileTree

variable {t t' t'' : FileTree} {p : Path}

/-- Places were added, at most. -/
structure Grows (t t' : FileTree) : Prop where
  nodes : ∃ added, t'.nodes = t.nodes ++ added
  denial : t'.denial = t.denial

theorem Grows.refl (t : FileTree) : Grows t t := ⟨⟨[], (List.append_nil _).symm⟩, rfl⟩

theorem Grows.trans (h : Grows t t') (h' : Grows t' t'') : Grows t t'' := by
  obtain ⟨added, hadded⟩ := h.nodes
  obtain ⟨more, hmore⟩ := h'.nodes
  exact ⟨⟨added ++ more, by rw [hmore, hadded, List.append_assoc]⟩, h'.denial.trans h.denial⟩

/-- What stood there still stands there. -/
theorem Grows.node? {n : Node} (h : Grows t t') (hn : t.node? p = some n) : t'.node? p = some n := by
  obtain ⟨added, hadded⟩ := h.nodes
  unfold FileTree.node? at hn ⊢
  split at hn
  · rwa [if_pos ‹_›]
  · rw [if_neg ‹_›, hadded, List.lookup_append, hn]
    rfl

theorem grows_add (t : FileTree) (p : Path) (n : Node) : Grows t (t.add p n) := ⟨⟨_, rfl⟩, rfl⟩

theorem node?_add (h : t.node? p = none) (n : Node) : (t.add p n).node? p = some n := by
  unfold FileTree.node? at h ⊢
  split at h
  · cases h
  · rw [if_neg ‹_›]
    simp [add, List.lookup_append, h]

/-! The way to a place stays open. -/

theorem of_bind_eq_ok {α β : Type} {x : Except TreeError α} {f : α → Except TreeError β} {b : β}
    (h : x >>= f = .ok b) : ∃ a, x = .ok a ∧ f a = .ok b := by
  cases x with
  | ok a => exact ⟨a, rfl, h⟩
  | error e => cases h

theorem Grows.checkDirectory (h : Grows t t') (hp : t.checkDirectory p = .ok ()) :
    t'.checkDirectory p = .ok () := by
  unfold FileTree.checkDirectory at hp ⊢
  split at hp
  · next hn => rw [h.node? hn]
  · cases hp
  · cases hp

theorem Grows.enter {q : Path} {s : List Char} (h : Grows t t') (hq : t.enter p s = .ok q) :
    t'.enter p s = .ok q := by
  unfold FileTree.enter at hq ⊢
  obtain ⟨_, hdirectory, hq⟩ := of_bind_eq_ok hq
  obtain ⟨_, hname, hq⟩ := of_bind_eq_ok hq
  rw [h.checkDirectory hdirectory, hname]
  split at hq
  · next hn =>
    cases hq
    simp only [h.node? hn]
    rfl
  · cases hq

theorem Grows.resolve {o : Origin} {r : Route} (h : Grows t t') (hp : t.resolve o r = .ok p) :
    t'.resolve o r = .ok p := by
  have hfold (r : Route) : ∀ q, r.foldlM t.enter q = .ok p → r.foldlM t'.enter q = .ok p := by
    induction r with
    | nil => exact fun _ h => h
    | cons s r ih =>
      intro q hq
      rw [List.foldlM_cons] at hq ⊢
      obtain ⟨q', henter, hq⟩ := of_bind_eq_ok hq
      rw [h.enter henter]
      exact ih q' hq
  exact hfold r _ hp

theorem Grows.site {o : Origin} {r : Route} {s : List Char} (h : Grows t t')
    (hp : t.site o r s = .ok p) : t'.site o r s = .ok p := by
  unfold FileTree.site at hp ⊢
  split at hp
  · cases hp
  · rw [if_neg ‹_›]
    obtain ⟨q, hresolve, hp⟩ := of_bind_eq_ok hp
    obtain ⟨_, hdirectory, hp⟩ := of_bind_eq_ok hp
    rw [h.resolve hresolve]
    show (t'.checkDirectory q >>= _) = _
    rw [h.checkDirectory hdirectory]
    exact hp

/-! ## What is made -/

theorem grows_unlessDenied {f : FileTree → FileTree} (hf : ∀ t, Grows t (f t)) (p : Path)
    (t : FileTree) : Grows t (final (unlessDenied p f t)) := by
  unfold unlessDenied
  split
  · exact .refl t
  · exact hf t

theorem grows_makeDirectory (o : Origin) (r : Route) (s : List Char) (t : FileTree) :
    Grows t (final (makeDirectory o r s t)) := by
  unfold makeDirectory
  split
  · exact .refl t
  · split
    · exact .refl t
    · exact grows_unlessDenied (fun t => grows_add t _ _) _ t

/-- By the steps that are left, the last of them first. -/
theorem grows_makeWay (o : Origin) (r : Route) (t : FileTree) : Grows t (final (makeWay o r t)) := by
  induction r generalizing t with
  | nil => exact .refl t
  | cons s back ih =>
    have hway := ih t
    have hstep (t' : FileTree) (h : Grows t t') :
        Grows t (final (makeDirectory o back.reverse s t')) := h.trans (grows_makeDirectory ..)
    unfold makeWay
    split
    · exact hstep t (.refl t)
    · cases h : makeWay o back t with
      | ok u t' =>
        rw [h] at hway
        dsimp only
        split
        · exact hway
        · exact hstep t' hway
      | error e t' =>
        rw [h] at hway
        cases e with
        | taken =>
          dsimp only
          split
          · exact hway
          · exact hstep t' hway
        | missing | notDirectory | isDirectory | longName | badName | denied => exact hway

theorem grows_ensureDirectory (o : Origin) (r : Route) (t : FileTree) :
    Grows t (final (ensureDirectory o r t)) := by
  unfold ensureDirectory
  split
  · exact .refl t
  · exact grows_makeWay o r.reverse t

theorem grows_ensureFile (p : Path) (t : FileTree) : Grows t (final (ensureFile p t)) := by
  unfold ensureFile
  split
  · exact .refl t
  · split
    · exact grows_unlessDenied .refl _ t
    · exact .refl t
    · exact grows_unlessDenied (fun t => grows_add t _ _) _ t

/-- A file that was opened is there, at the place that its path leads to. -/
theorem ensureFile_ok (h : ensureFile p t = .ok () t') : ∃ q content,
    t'.site p.origin p.names.dropLast p.name = .ok q ∧ t'.node? q = some (.file content) := by
  have hgrows : Grows t t' := by simpa [h] using grows_ensureFile p t
  unfold ensureFile unlessDenied at h
  split at h
  · cases h
  · next q hsite =>
    refine ⟨q, ?_⟩
    split at h
    · next content hn =>
      split at h
      · cases h
      · cases h
        exact ⟨content, hgrows.site hsite, hn⟩
    · cases h
    · next hn =>
      split at h
      · cases h
      · cases h
        exact ⟨"", hgrows.site hsite, node?_add hn _⟩

end FileTree

/-! ## Files for records -/

namespace LogFiles

variable {program : Path} {request : LogRequest} {t : FileTree}

theorem grows_makeFile (program : Path) (request : LogRequest) (t : FileTree) :
    t.Grows (final (makeFile program request t)) := by
  have hdirectory :=
    FileTree.grows_ensureDirectory (directory program request).1 (directory program request).2 t
  unfold makeFile
  split
  · exact .refl t
  · show t.Grows (final ((FileTree.ensureDirectory _ _ >>= fun _ => FileTree.ensureFile _) t))
    cases h : outcome (FileTree.ensureDirectory _ _ t) with
    | ok u =>
      rw [bind_of_ok h]
      exact hdirectory.trans (FileTree.grows_ensureFile ..)
    | error e =>
      rw [bind_of_error h]
      exact hdirectory

theorem makeFile_ok {t' : FileTree} (h : makeFile program request t = .ok () t') : ∃ q content,
    t'.site (target program request).origin (target program request).names.dropLast
      (target program request).name = .ok q ∧ t'.node? q = some (.file content) := by
  unfold makeFile at h
  split at h
  · cases h
  · obtain ⟨_, t1, -, h⟩ := bind_eq_ok.1 h
    exact FileTree.ensureFile_ok h

/-- What a set-up comes to. -/
structure SetUp (program : Path) (request : LogRequest) (l : LogFiles)
    (r : EStateM.Result TreeError LogFiles Unit) : Prop where
  grows : l.tree.Grows (final r).tree
  console : (final r).console = l.console
  failed : ∀ e, outcome r = .error e → (final r).level = l.level ∧ (final r).targets = l.targets
  /-- The file is there to be written on. -/
  done : outcome r = .ok () → (final r).level = request.level ∧
    (final r).targets = l.targets ++ [target program request] ∧
    ∃ q content, (final r).tree.site (target program request).origin
      (target program request).names.dropLast (target program request).name = .ok q ∧
      (final r).tree.node? q = some (.file content)

theorem setUp_spec (program : Path) (request : LogRequest) (l : LogFiles) :
    SetUp program request l (setUp program request l) := by
  have hgrows := grows_makeFile program request l.tree
  cases h : makeFile program request l.tree with
  | ok u tree =>
    rw [h] at hgrows
    have hchange : change (makeFile program request) l = .ok () { l with tree } := by
      unfold change
      rw [h]
    have hrun : setUp program request l = .ok () _ := bind_of_run hchange
    rw [hrun]
    exact ⟨hgrows, rfl, by rintro _ ⟨⟩, fun _ => ⟨rfl, rfl, makeFile_ok h⟩⟩
  | error e tree =>
    rw [h] at hgrows
    have hchange : change (makeFile program request) l = .error e { l with tree } := by
      unfold change
      rw [h]
    have hrun : setUp program request l = .error e _ := bind_of_error (congrArg outcome hchange)
    rw [hrun, hchange]
    exact ⟨hgrows, rfl, fun _ _ => ⟨rfl, rfl⟩, by rintro ⟨⟩⟩

end LogFiles

end SqlWire
