import Mathlib.Data.List.Nodup
import ReactBridge.Proofs.FileSystem.Tree

/-!
# Entries under all names

* `EntryName.toBytes_injective` : names are told apart by their bytes;
* `Disk.mem_namesBelow` : the names in a directory;
* `Disk.IsTree.entryAt_entry` : the path of an entry leads to it, unless it is too long.
-/

namespace ReactBridge
open FileSystem

/-! ## Names -/

theorem ByteName.ne_bytesOf (name : ByteName) (text : String) : name.bytes ≠ bytesOf text := by
  intro h
  have hnone := name.noText
  rw [h, fromUTF8?_bytesOf] at hnone
  cases hnone

theorem EntryName.toBytes_injective {a b : EntryName} (h : a.toBytes = b.toBytes) : a = b := by
  cases a with
  | text a =>
    cases b with
    | text b => exact congrArg text (bytesOf_injective h)
    | bytes b => exact absurd h.symm (b.ne_bytesOf a)
  | bytes a =>
    cases b with
    | text b => exact absurd h (a.ne_bytesOf b)
    | bytes b => exact congrArg bytes (ByteName.ext h)

namespace Disk

variable {disk : Disk} {dir : Path} {place : Location} {name : EntryName}

theorem mem_namesBelow : name ∈ disk.namesBelow place ↔ (disk.find place name).isSome = true := by
  rw [Disk.namesBelow, List.mem_append, List.mem_eraseDups, List.mem_map, List.mem_filterMap]
  cases name with
  | text name =>
    rw [Disk.find, ← FileSystem.mem_namesBelow]
    constructor
    · rintro (⟨other, hother, heq⟩ | ⟨⟨⟨other, odd⟩, entry⟩, -, heq⟩)
      · rwa [← EntryName.text.inj heq]
      · dsimp only at heq
        split at heq <;> cases heq
    · exact fun h => .inl ⟨name, h, rfl⟩
  | bytes name =>
    rw [Disk.find, List.lookup_isSome_iff]
    constructor
    · rintro (⟨other, -, heq⟩ | ⟨⟨⟨other, odd⟩, entry⟩, hmem, heq⟩)
      · cases heq
      · dsimp only at heq
        split at heq
        · next hplace =>
          obtain rfl := EntryName.bytes.inj (Option.some.inj heq)
          exact ⟨_, hmem, by rw [hplace]; exact beq_self_eq_true _⟩
        · cases heq
    · rintro ⟨⟨⟨other, odd⟩, entry⟩, hmem, heq⟩
      obtain ⟨rfl, rfl⟩ := Prod.mk.inj (eq_of_beq heq)
      exact .inr ⟨_, hmem, if_pos rfl⟩

theorem nodup_namesBelow (disk : Disk) (place : Location) : (disk.namesBelow place).Nodup := by
  rw [Disk.namesBelow, List.nodup_append]
  have htext : Function.Injective EntryName.text := fun _ _ => EntryName.text.inj
  refine ⟨(FileSystem.nodup_namesBelow disk.files place).map htext, nodup_eraseDups _, ?_⟩
  intro a ha b hb heq
  obtain ⟨name, -, rfl⟩ := List.mem_map.1 ha
  obtain ⟨⟨⟨other, odd⟩, entry⟩, -, hodd⟩ := List.mem_filterMap.1 (List.mem_eraseDups.1 hb)
  dsimp only at hodd
  rw [← heq] at hodd
  split at hodd <;> cases hodd

theorem namesAt_eq_some_iff {names : List EntryName} : disk.namesAt dir = some names ↔
    ∃ place, disk.files.resolve dir = some place ∧ disk.files.isDirectory place = true ∧
      names = disk.namesBelow place := by
  unfold Disk.namesAt
  constructor
  · intro h
    split at h
    · next place hplace =>
      split at h
      · next hdir =>
        obtain rfl := Option.some.inj h
        exact ⟨place, hplace, hdir, rfl⟩
      · cases h
    · cases h
  · rintro ⟨place, hplace, hdir, rfl⟩
    rw [hplace]
    exact if_pos hdir

theorem nodup_of_namesAt {names : List EntryName} (h : disk.namesAt dir = some names) :
    names.Nodup := by
  obtain ⟨place, -, -, rfl⟩ := namesAt_eq_some_iff.1 h
  exact nodup_namesBelow disk place

/-! ## Entries of a directory -/

/-- The files are a tree, and no name has an end mark. -/
structure IsTree (disk : Disk) : Prop where
  files : disk.files.IsTree
  unmarked : ∀ place name, (disk.files.find (place ++ [name])).isSome = true →
    '\x00' ∉ name.toList

theorem IsTree.of_entries (h : disk.files.IsTree)
    (hnames : ∀ entry ∈ disk.files.entries, ∀ name ∈ entry.1, '\x00' ∉ name.toList) :
    disk.IsTree := by
  refine ⟨h, fun place name hsome => ?_⟩
  obtain ⟨entry, hmem⟩ := find_isSome_iff.1 hsome
  exact hnames _ hmem name (List.mem_append_right _ List.mem_cons_self)

end Disk

theorem FileSystem.asksDirectory_join (dir : Path) {name : String} (h : Path.IsName name) :
    asksDirectory (dir.join ⟨name⟩) = false := by
  obtain ⟨front, hsegments, hstill, -⟩ := Path.segments_of_lastName? (Path.lastName?_join dir h)
  rw [asksDirectory, hsegments, List.getLast?_concat, Option.any_some, hstill]

theorem FileSystem.entryAt_join {fs : FileSystem} {dir : Path} {place : Location}
    (hdir : fs.resolve dir = some place) (hplace : fs.isDirectory place = true) {name : String}
    (hname : Path.IsName name) : fs.entryAt (dir.join ⟨name⟩) =
      if isPassable (dir.join ⟨name⟩) then fs.find (place ++ [name]) else none := by
  have hwalk := (resolve_eq_some_iff.1 hdir).2.1
  have hresolve : ∀ last, fs.resolve (dir.join ⟨name⟩) = some last ↔
      isPassable (dir.join ⟨name⟩) = true ∧ last = place ++ [name] ∧ (fs.find last).isSome = true := by
    intro last
    rw [resolve_eq_some_iff, Path.components_join dir hname, walk_concat, hwalk,
      asksDirectory_join dir hname]
    simp [step_eq_some_iff, hplace, move]
  unfold entryAt
  cases hlast : fs.resolve (dir.join ⟨name⟩) with
  | some last =>
    obtain ⟨hpassable, rfl, -⟩ := (hresolve last).1 hlast
    rw [if_pos hpassable, Option.bind_some]
  | none =>
    rw [Option.bind_none]
    split
    · next hpassable =>
      cases hfind : fs.find (place ++ [name]) with
      | none => rfl
      | some entry =>
        rw [(hresolve _).2 ⟨hpassable, rfl, by rw [hfind]; rfl⟩] at hlast
        cases hlast
    · rfl

/-- Below a path that can be passed, only its length can keep a path from being passed. -/
theorem FileSystem.isPassable_join {dir : Path} (h : isPassable dir = true) {name : String}
    (hname : Path.IsName name) (hmark : '\x00' ∉ name.toList) :
    isPassable (dir.join ⟨name⟩) = true ↔ (dir.join ⟨name⟩).text.utf8ByteSize ≤ maxPath := by
  rw [isPassable, Bool.and_eq_true, Bool.and_eq_true] at h
  obtain ⟨⟨hempty, -⟩, hdir⟩ := h
  rw [Path.join_relative dir hname.isAbsolute]
  have hgap : '\x00' ∉ dir.gap.toList := by
    unfold Path.gap
    split <;> decide
  simp_all [isPassable]

theorem Disk.IsTree.entryAt_entry {disk : Disk} {dir : Path} {place : Location}
    (htree : disk.IsTree) (hdir : disk.files.resolve dir = some place)
    (hplace : disk.files.isDirectory place = true) {name : EntryName}
    (hname : name ∈ disk.namesBelow place) :
    disk.entryAt (dir.entry name) =
      if (dir.entry name).size ≤ maxPath then disk.find place name else none := by
  have hpassable := (resolve_eq_some_iff.1 hdir).1
  have hwalk := (resolve_eq_some_iff.1 hdir).2.1
  cases name with
  | text name =>
    have hsome := Disk.mem_namesBelow.1 hname
    have hproper := htree.files.names place name hsome
    have hpasses := isPassable_join hpassable hproper (htree.unmarked place name hsome)
    refine (entryAt_join hdir hplace hproper).trans ?_
    exact if_congr hpasses rfl rfl
  | bytes name =>
    have hmark : dir.text.toList.contains '\x00' = false := by
      rw [isPassable, Bool.and_eq_true, Bool.not_eq_true'] at hpassable
      exact hpassable.2
    change Disk.entryAt disk (.odd dir name) = _
    rw [Disk.entryAt, hmark, hwalk]
    by_cases hsize : (EntryPath.odd dir name).size ≤ maxPath
    · rw [decide_eq_true hsize, Option.bind_eq_bind, Option.bind_eq_bind, Option.bind_some, hplace]
      exact (if_pos hsize).symm
    · rw [decide_eq_false hsize]
      exact (if_neg hsize).symm

end ReactBridge
