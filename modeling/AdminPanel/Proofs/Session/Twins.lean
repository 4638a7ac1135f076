import AdminPanel.Proofs.Storage.Frame
import AdminPanel.Proofs.Storage.Steps
import AdminPanel.Rpc.Credential

/-!
# Storages that differ in the token

Two storages that are the same but for the token of the session (`Twins`): in memory the items differ in
it, in files the storage file does, and nothing else. What is done to both succeeds in both or fails in
both with the same fault, and leaves twins again. All that tells them apart is the token, and where there
is one there are two, each of which a header can carry (`Carriable`).
-/

namespace AdminPanel.Session

open FileTree (DifferAt)
open Json (Members.find? Members.insert Members.erase)
open Storage (Items Place Store Contents HoldsDocument readItems replaceItems)

/-! ## Items -/

/-- A token that is not empty and that a header can carry. -/
def Carriable (token : String) : Prop :=
  token ≠ "" ∧ (Rpc.bearer token).toList.all Rpc.isHeaderChar

/-- What stands under the name of the token on two sides: the same, or two tokens that a header can
carry. -/
inductive TwinTokens : Option String → Option String → Prop where
  | same (found : Option String) : TwinTokens found found
  | tokens {t t' : String} (h : Carriable t) (h' : Carriable t') : TwinTokens (some t) (some t')

/-- Items that are the same but for the token. -/
structure TwinItems (items items' : Items) : Prop where
  others : items.SameBut tokenName items'
  token : TwinTokens (Members.find? tokenName items) (Members.find? tokenName items')

namespace TwinItems

variable {items items' : Items}

theorem refl (items : Items) : TwinItems items items :=
  ⟨.refl tokenName items, .same _⟩

/-- What happens to all items alike keeps them twins. -/
theorem apply (h : TwinItems items items') (r : Storage.Request) :
    TwinItems (r.apply items) (r.apply items') := by
  by_cases named : r.name = tokenName
  · have others : (r.apply items).SameBut tokenName (r.apply items') :=
      named ▸ ((r.apply_sameBut items).trans (named ▸ h.others)).trans (r.apply_sameBut items').symm
    refine ⟨others, ?_⟩
    rw [← named, r.find?_apply, r.find?_apply, named]
    cases r with
    | get name => exact h.token
    | set name value => exact .same _
    | remove name => exact .same _
  · have kept (items : Items) :
        Members.find? tokenName (r.apply items) = Members.find? tokenName items :=
      r.apply_sameBut items tokenName (Ne.symm named)
    refine ⟨fun other ne => ?_, by rw [kept, kept]; exact h.token⟩
    by_cases here : other = r.name
    · rw [here, r.find?_apply, r.find?_apply, h.others r.name named]
    · rw [r.apply_sameBut items other here, r.apply_sameBut items' other here, h.others other ne]

theorem isSome (h : TwinItems items items') (name : String) :
    (Members.find? name items).isSome = (Members.find? name items').isSome := by
  by_cases named : name = tokenName
  · rw [named]
    generalize Members.find? tokenName items = found, Members.find? tokenName items' = found',
      h.token = twins
    cases twins <;> rfl
  · rw [h.others name named]

end TwinItems

/-! ## Files -/

/-- Trees that differ at a place alone, and in the storage file at a path only in the token of its
document. -/
structure TwinFiles (q path : FilePath) (t t' : FileTree) : Prop where
  differ : DifferAt q t t'
  documents : ∃ items items', HoldsDocument t path items ∧ HoldsDocument t' path items' ∧
    TwinItems items items'

variable {q path : FilePath} {t t' : FileTree} {s s' : Store}

theorem readItems_of_holdsDocument {items : Items} (h : HoldsDocument t path items) :
    readItems t path = .ok items :=
  Storage.readItems_eq_ok_iff.mpr (.document items h)

/-- Storage documents that are put into both trees: the same one, or one where the trees differ. -/
theorem alike_replaceItems (differ : DifferAt q t t') {items items' : Items}
    (either : items' = items ∨ ∃ front name parent, path = front ++ [name] ∧
      FileTree.Lands t front name parent ∧ q = parent ++ [name]) :
    Alike (DifferAt q) (replaceItems t path items) (replaceItems t' path items') := by
  unfold replaceItems
  rcases (differ.makeDirs (FileTree.parentPath path)).cases_eq with
    ⟨e, left, right⟩ | ⟨made, made', left, right, related⟩
  · simp only [left, right]
    exact .error _
  · have bytes : items'.document.toUTF8.toList = items.document.toUTF8.toList ∨
        made.place path = .ok q := by
      rcases either with rfl | ⟨front, name, parent, rfl, lands, rfl⟩
      · exact .inl rfl
      · rw [FileTree.makeDirs_of_lands lands] at left
        cases left
        exact .inr lands.place_eq
    simp only [left, right]
    rcases (related.replace path bytes).cases_eq with ⟨e, left, right⟩ | ⟨u, u', left, right, after⟩
    · simp only [left, right]
      exact .error _
    · simp only [left, right]
      exact .ok after

namespace TwinFiles

/-- What the storage files hold can be changed in both trees. -/
theorem change (h : TwinFiles q path t t') {items items' : Items} (holds : HoldsDocument t path items)
    (holds' : HoldsDocument t' path items') (twins : TwinItems items items') (r : Storage.Request) :
    Alike (TwinFiles q path) (replaceItems t path (r.apply items))
      (replaceItems t' path (r.apply items')) := by
  have either : r.apply items' = r.apply items ∨ ∃ front name parent, path = front ++ [name] ∧
      FileTree.Lands t front name parent ∧ q = parent ++ [name] := by
    obtain ⟨text, read, parsed⟩ := holds
    obtain ⟨text', read', parsed'⟩ := holds'
    rcases h.differ.walk [] path with ⟨f, f', left, -⟩ | ⟨-, same⟩
    · -- the path leads to where the trees differ
      obtain ⟨g, looked⟩ := FileTree.file_of_readText read
      obtain ⟨front, name, parent, rfl, lands, -⟩ := FileTree.lands_of_file looked
      exact .inr ⟨front, name, parent, rfl, lands, lands.eq_of_walk left⟩
    · -- the path leads elsewhere, where the same stands in both trees
      have looked : t'.look path = t.look path := by rw [FileTree.look, same, FileTree.look]
      rw [FileTree.readText_congr looked, read] at read'
      cases read'
      rw [parsed] at parsed'
      cases parsed'
      exact .inl rfl
  have sorted := r.sorted_apply (Contents.document items holds).sorted
  have sorted' := r.sorted_apply (Contents.document items' holds').sorted
  rcases (alike_replaceItems h.differ either).cases_eq with
    ⟨e, left, right⟩ | ⟨u, u', left, right, differ⟩
  · rw [left, right]
    exact .error _
  · rw [left, right]
    exact .ok ⟨differ, _, _, Storage.holdsDocument_of_replaceItems sorted left,
      Storage.holdsDocument_of_replaceItems sorted' right, twins.apply r⟩

end TwinFiles

/-! ## Storages -/

/-- Places of the same kind that hold twin items. -/
inductive TwinPlaces (path : FilePath) : Place → Place → Prop where
  | memory {items items' : Items} (h : TwinItems items items') :
      TwinPlaces path (.memory items) (.memory items')
  | refusing (refusals : Storage.Refusals) {items items' : Items} (h : TwinItems items items') :
      TwinPlaces path (.refusing refusals items) (.refusing refusals items')
  | keychain : TwinPlaces path .keychain .keychain
  | file : TwinPlaces path (.file path) (.file path)

/-- **Storages that differ in the token alone**: of the items that they keep, and of the document in the
file at a path. -/
structure Twins (q path : FilePath) (s s' : Store) : Prop where
  place : TwinPlaces path s.place s'.place
  files : s'.files = s.files ∨ TwinFiles q path s.files s'.files

/-- A storage whose file has been changed. -/
theorem TwinFiles.store (h : TwinFiles q path t t') {items items' : Items}
    (holds : HoldsDocument t path items) (holds' : HoldsDocument t' path items')
    (twins : TwinItems items items') (r : Storage.Request) :
    Alike (Twins q path)
      (match replaceItems t path (r.apply items) with
        | .error e => .error e
        | .ok files => .ok ⟨.file path, files⟩)
      (match replaceItems t' path (r.apply items') with
        | .error e => .error e
        | .ok files => .ok ⟨.file path, files⟩) := by
  rcases (h.change holds holds' twins r).cases_eq with ⟨e, left, right⟩ | ⟨u, u', left, right, after⟩
  · rw [left, right]
    exact .error _
  · rw [left, right]
    exact .ok ⟨.file, .inr after⟩

namespace Twins

variable {name value : String}

/-- **What is read from twins**: the same fault, or twin items. -/
theorem read (h : Twins q path s s') :
    (∃ e, ∀ name, s.get name = .error e ∧ s'.get name = .error e) ∨
      ∃ items items', TwinItems items items' ∧ ∀ name,
        s.get name = .ok (Members.find? name items) ∧
        s'.get name = .ok (Members.find? name items') := by
  obtain ⟨place, files⟩ := s
  obtain ⟨place', files'⟩ := s'
  obtain ⟨places, trees⟩ := h
  cases places with
  | memory h => exact .inr ⟨_, _, h, fun name => ⟨rfl, rfl⟩⟩
  | refusing refusals h =>
    cases hidden : refusals.get with
    | true =>
      exact .inl ⟨.unavailable "storage disabled", fun name =>
        ⟨by simp [Store.get, hidden], by simp [Store.get, hidden]⟩⟩
    | false =>
      exact .inr ⟨_, _, h, fun name => ⟨by simp [Store.get, hidden], by simp [Store.get, hidden]⟩⟩
  | keychain => exact .inr ⟨[], [], .refl [], fun name => ⟨rfl, rfl⟩⟩
  | file =>
    rcases trees with same | twins
    · -- one file
      cases same
      cases reading : readItems files path with
      | error e =>
        exact .inl ⟨e, fun name => by rw [Store.get_file, reading]; exact ⟨rfl, rfl⟩⟩
      | ok items =>
        exact .inr ⟨items, items, .refl items,
          fun name => by rw [Store.get_file, reading]; exact ⟨rfl, rfl⟩⟩
    · obtain ⟨items, items', holds, holds', h⟩ := twins.documents
      exact .inr ⟨items, items', h, fun name =>
        ⟨Store.get_of_contents (.document items holds) name,
          Store.get_of_contents (.document items' holds') name⟩⟩

/-- Items of other names are the same. -/
theorem get_of_ne (h : Twins q path s s') (ne : name ≠ tokenName) : s'.get name = s.get name := by
  rcases h.read with ⟨e, failed⟩ | ⟨items, items', twins, found⟩
  · rw [(failed name).1, (failed name).2]
  · rw [(found name).1, (found name).2, twins.others name ne]

/-- **What twins say of their token**: the same, or two tokens that a header can carry. -/
theorem token (h : Twins q path s s') :
    Session.token s' = Session.token s ∨ ∃ t t', Session.token s = .ok (some t) ∧
      Session.token s' = .ok (some t') ∧ Carriable t ∧ Carriable t' := by
  rw [Session.token_eq, Session.token_eq]
  rcases h.read with ⟨e, failed⟩ | ⟨items, items', twins, found⟩
  · rw [(failed tokenName).1, (failed tokenName).2]
    exact .inl rfl
  · rw [(found tokenName).1, (found tokenName).2]
    have tokens := twins.token
    generalize Members.find? tokenName items = value, Members.find? tokenName items' = value'
      at tokens
    cases tokens with
    | same => exact .inl rfl
    | @tokens t t' h h' =>
      have full {t : String} (h : Carriable t) :
          (some t).filter (fun t => !t.isEmpty) = some t := by
        simp [Option.filter, h.1]
      simp only [full h, full h']
      exact .inr ⟨t, t', rfl, rfl, h, h'⟩

theorem isOpen (h : Twins q path s s') : Session.isOpen s' = Session.isOpen s := by
  unfold Session.isOpen
  rcases h.token with same | ⟨t, t', left, right, -, -⟩
  · rw [same]
  · rw [left, right]

/-! ## Changes -/

/-- The same operation on two files, after which the places are what they were. -/
theorem set (h : Twins q path s s') (name value : String) :
    Alike (Twins q path) (s.set name value) (s'.set name value) := by
  obtain ⟨place, files⟩ := s
  obtain ⟨place', files'⟩ := s'
  obtain ⟨places, trees⟩ := h
  cases places with
  | memory h => exact .ok ⟨.memory (h.apply (.set name value)), trees⟩
  | refusing refusals h =>
    unfold Store.set
    simp only
    split
    · exact .error _
    · exact .ok ⟨.refusing refusals (h.apply (.set name value)), trees⟩
  | keychain => exact .ok ⟨.keychain, trees⟩
  | file =>
    rw [Store.set_file, Store.set_file]
    -- the trees are the same outside the files, or both files hold documents that differ in the token
    rcases trees with same | twins
    · cases same
      cases readItems files path with
      | error e => exact .error e
      | ok items =>
        simp only
        cases replaceItems files path (Members.insert name value items) with
        | error e => exact .error e
        | ok files' => exact .ok ⟨.file, .inl rfl⟩
    · obtain ⟨items, items', holds, holds', h⟩ := twins.documents
      rw [readItems_of_holdsDocument holds, readItems_of_holdsDocument holds']
      exact twins.store holds holds' h (.set name value)

theorem remove (h : Twins q path s s') (name : String) :
    Alike (Twins q path) (s.remove name) (s'.remove name) := by
  obtain ⟨place, files⟩ := s
  obtain ⟨place', files'⟩ := s'
  obtain ⟨places, trees⟩ := h
  cases places with
  | memory h => exact .ok ⟨.memory (h.apply (.remove name)), trees⟩
  | refusing refusals h =>
    unfold Store.remove
    simp only
    split
    · exact .error _
    · exact .ok ⟨.refusing refusals (h.apply (.remove name)), trees⟩
  | keychain => exact .ok ⟨.keychain, trees⟩
  | file =>
    rw [Store.remove_file, Store.remove_file]
    rcases trees with same | twins
    · cases same
      cases readItems files path with
      | error e => exact .error e
      | ok items =>
        simp only
        cases Members.find? name items with
        | none => exact .ok ⟨.file, .inl rfl⟩
        | some value =>
          simp only
          cases replaceItems files path (Members.erase name items) with
          | error e => exact .error e
          | ok files' => exact .ok ⟨.file, .inl rfl⟩
    · obtain ⟨items, items', holds, holds', h⟩ := twins.documents
      rw [readItems_of_holdsDocument holds, readItems_of_holdsDocument holds']
      simp only
      have both := h.isSome name
      rcases found : Members.find? name items with _ | value
      · -- nothing to remove on either side
        rw [found] at both
        have none' : Members.find? name items' = none := by simpa using both.symm
        rw [none']
        exact .ok ⟨.file, .inr twins⟩
      · rw [found] at both
        obtain ⟨value', found'⟩ := Option.isSome_iff_exists.mp both.symm
        rw [found']
        exact twins.store holds holds' h (.remove name)

theorem start (h : Twins q path s s') (t : String) :
    Alike (Twins q path) (Session.start s t) (Session.start s' t) := by
  unfold Session.start
  split
  · exact .error _
  · exact h.set tokenName t

theorem finish (h : Twins q path s s') :
    Alike (Twins q path) (Session.finish s) (Session.finish s') :=
  h.remove tokenName

end Twins

end AdminPanel.Session
