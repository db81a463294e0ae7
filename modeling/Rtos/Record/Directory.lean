import Rtos.ByteString.Basic

/-!
# Directories

A directory keeps entries under names. It owns its names as byte strings, of which no two
have the same buffer, and finds an entry by the plain bytes of a name. Every buffer ends
with its terminator, so that the two comparisons agree whatever bytes there are in a name.

`Directory.get?` is the view of a directory that everything else is said with: an entry
that is put under a name is found there, and nothing else changes.
-/

namespace Rtos

namespace Record

/-- Entries under names. -/
structure Directory (Entry : Type) where
  entries : List (ByteString × Entry)
  terminated : ∀ entry ∈ entries, entry.1.Terminated
  distinct : (entries.map (·.1.buffer)).Nodup

namespace Directory

variable {Entry : Type}

def empty : Directory Entry :=
  ⟨[], List.forall_mem_nil _, List.nodup_nil⟩

/-- The entry whose name consists of the given bytes. -/
def get? (directory : Directory Entry) (name : Bytes) : Option Entry :=
  (directory.entries.find? fun entry => entry.1.content == name).map (·.2)

/-- The entries under all names but one. -/
def others (directory : Directory Entry) (key : ByteString) : List (ByteString × Entry) :=
  directory.entries.filter fun entry => entry.1.buffer != key.buffer

/-- The entries with the bytes of their names. -/
def listing (directory : Directory Entry) : List (Bytes × Entry) :=
  directory.entries.map fun entry => (entry.1.content, entry.2)

theorem others_distinct (directory : Directory Entry) (key : ByteString) :
    ((directory.others key).map (·.1.buffer)).Nodup :=
  directory.distinct.sublist (List.Sublist.map _ List.filter_sublist)

theorem not_mem_others (directory : Directory Entry) (key : ByteString) :
    key.buffer ∉ (directory.others key).map (·.1.buffer) := by
  simp [others]

theorem terminated_ofBytes (name : Bytes) : (ByteString.ofBytes name).Terminated := by
  simp [ByteString.Terminated, ByteString.content, ByteString.ofBytes]

@[simp]
theorem content_ofBytes (name : Bytes) : (ByteString.ofBytes name).content = name := by
  simp [ByteString.content, ByteString.ofBytes]

/-- The directory with an entry under a name, in place of any that was there. -/
def put (directory : Directory Entry) (name : Bytes) (entry : Entry) : Directory Entry where
  entries := (ByteString.ofBytes name, entry) :: directory.others (ByteString.ofBytes name)
  terminated := by
    intro found inside
    rcases List.mem_cons.mp inside with rfl | inside
    · exact terminated_ofBytes name
    · exact directory.terminated found (List.mem_filter.mp inside).1
  distinct := List.nodup_cons.mpr ⟨directory.not_mem_others _, directory.others_distinct _⟩

/-- Owned names are told apart by their buffers, which is to tell them apart by their bytes. -/
theorem buffer_eq_ofBytes {key : ByteString} (ends : key.Terminated) (name : Bytes) :
    key.buffer = (ByteString.ofBytes name).buffer ↔ key.content = name := by
  constructor
  · intro buffers
    simp [ByteString.content, buffers, ByteString.ofBytes]
  · intro contents
    rw [ends, contents, ByteString.ofBytes]

theorem listing_put (directory : Directory Entry) (name : Bytes) (entry : Entry) :
    (directory.put name entry).listing =
      (name, entry) :: directory.listing.filter (·.1 != name) := by
  have kept : directory.others (ByteString.ofBytes name) =
      directory.entries.filter fun entry => entry.1.content != name := by
    apply List.filter_congr
    intro found inside
    have same := buffer_eq_ofBytes (directory.terminated found inside) name
    simp only [bne, Bool.beq_eq_decide_eq, same]
  simp [listing, put, kept, List.filter_map, Function.comp_def]

theorem get?_eq_lookup (directory : Directory Entry) (name : Bytes) :
    directory.get? name = directory.listing.lookup name := by
  simp only [get?, listing]
  induction directory.entries with
  | nil => rfl
  | cons head tail ih =>
      by_cases found : head.1.content = name
      · simp [found]
      · simp [found, List.lookup_cons, beq_eq_false_iff_ne.mpr (Ne.symm found), ih]

theorem lookup_others (listing : List (Bytes × Entry)) (name wanted : Bytes) :
    (listing.filter (·.1 != name)).lookup wanted =
      if wanted = name then none else listing.lookup wanted := by
  induction listing with
  | nil => simp
  | cons head tail ih =>
      rcases head with ⟨key, entry⟩
      by_cases same : key = name
      · subst same
        simp only [bne_self_eq_false, Bool.false_eq_true, not_false_eq_true,
          List.filter_cons_of_neg, ih]
        by_cases found : wanted = key
        · simp [found]
        · simp [found, List.lookup_cons, beq_eq_false_iff_ne.mpr found]
      · by_cases found : wanted = key
        · subst found
          simp [same]
        · simp [same, List.lookup_cons, beq_eq_false_iff_ne.mpr found, ih]

@[simp]
theorem get?_put (directory : Directory Entry) (name wanted : Bytes) (entry : Entry) :
    (directory.put name entry).get? wanted =
      if wanted = name then some entry else directory.get? wanted := by
  simp only [get?_eq_lookup, listing_put, List.lookup_cons, lookup_others]
  by_cases same : wanted = name
  · simp [same]
  · simp [same, beq_eq_false_iff_ne.mpr same]

theorem listing_distinct (directory : Directory Entry) :
    (directory.listing.map (·.1)).Nodup := by
  have distinct := directory.distinct
  simp only [listing, List.map_map, List.Nodup, List.pairwise_map, Function.comp_apply]
    at distinct ⊢
  apply distinct.imp_of_mem
  intro left right leftIn rightIn apart same
  apply apart
  rw [directory.terminated left leftIn, directory.terminated right rightIn, same]

theorem mem_listing (directory : Directory Entry) (name : Bytes) (entry : Entry) :
    (name, entry) ∈ directory.listing ↔ directory.get? name = some entry := by
  have distinct := directory.listing_distinct
  rw [get?_eq_lookup]
  generalize directory.listing = listing at distinct ⊢
  induction listing with
  | nil => simp
  | cons head tail ih =>
      rcases head with ⟨key, first⟩
      rcases List.nodup_cons.mp distinct with ⟨fresh, others⟩
      by_cases same : name = key
      · subst same
        have absent : (name, entry) ∉ tail := by
          intro present
          exact fresh (List.mem_map.mpr ⟨_, present, rfl⟩)
        simp [absent, eq_comm]
      · simp [List.lookup_cons, beq_eq_false_iff_ne.mpr same, same, ih others]

end Directory

end Record

end Rtos
