import StreamTable.Proofs.SortedRows
import Mathlib.Data.Finmap
import Mathlib.Data.List.Perm.Basic

/-! A table is a finite map from identities to rows. Order says where a row goes and
which rows a key can reach; the roster forgets both and keeps what was placed last.
Keys must be in normal form, since a removal does not normalize, and keys of one
identity must tie, since a placement only looks at rows that tie with it. -/

namespace StreamTable

/-- The row last placed under each identity. -/
abbrev Roster := Finmap fun _ : String => Row

namespace Roster

def keyed (entry : Entry) : Sigma fun _ : String => Row := ⟨Key.identity entry.row.displayKey, entry.row⟩

/-- The entries hold the rows of a roster, each once and nothing else. -/
def Lists (entries : List Entry) (roster : Roster) : Prop :=
  (entries.map keyed : Multiset (Sigma fun _ : String => Row)) = roster.entries

private theorem insert_erase (roster : Roster) (key : String) (row : Row) :
    (roster.erase key).insert key row = roster.insert key row := by
  apply Finmap.ext_lookup
  intro other
  by_cases same : other = key
  · rw [same, Finmap.lookup_insert, Finmap.lookup_insert]
  · rw [Finmap.lookup_insert_of_ne _ same, Finmap.lookup_insert_of_ne _ same, Finmap.lookup_erase_ne same]

private theorem insert_lookup {roster : Roster} {key : String} {row : Row} (held : roster.lookup key = some row) :
    roster.insert key row = roster := by
  apply Finmap.ext_lookup
  intro other
  by_cases same : other = key
  · rw [same, Finmap.lookup_insert, held]
  · rw [Finmap.lookup_insert_of_ne _ same]

theorem erase_absent {roster : Roster} {key : String} (absent : key ∉ roster) :
    roster.erase key = roster := by
  apply Finmap.ext_lookup
  intro other
  by_cases same : other = key
  · rw [same, Finmap.lookup_erase, Finmap.lookup_eq_none.mpr absent]
  · rw [Finmap.lookup_erase_ne same]

namespace Lists

variable {entries rest : List Entry} {entry : Entry} {roster : Roster}

theorem empty : Lists [] ∅ := rfl

theorem perm {others : List Entry} (lists : Lists entries roster) (same : others.Perm entries) :
    Lists others roster :=
  (Multiset.coe_eq_coe.mpr (same.map keyed)).trans lists

theorem mem_iff (lists : Lists entries roster) {key : String} :
    key ∈ roster ↔ ∃ entry ∈ entries, Key.identity entry.row.displayKey = key := by
  rw [Finmap.mem_def, ← lists, Multiset.coe_keys]
  simp [List.keys, keyed]

theorem distinct (lists : Lists entries roster) :
    (entries.map fun entry => Key.identity entry.row.displayKey).Nodup := by
  have keys := roster.nodupKeys
  rw [← lists, Multiset.coe_nodupKeys, List.NodupKeys] at keys
  simpa [List.keys, keyed, Function.comp_def] using keys

theorem length_eq (lists : Lists entries roster) : entries.length = roster.keys.card := by
  have count : roster.entries.keys.card = roster.keys.card := rfl
  rw [← count, ← lists, Multiset.coe_keys, Multiset.coe_card]
  simp [List.keys]

theorem cons (lists : Lists entries roster) (entry : Entry) (absent : Key.identity entry.row.displayKey ∉ roster) :
    Lists (entry :: entries) (roster.insert (Key.identity entry.row.displayKey) entry.row) := by
  rw [Lists, Finmap.entries_insert_of_notMem absent, ← lists]
  rfl

theorem of_cons (lists : Lists (entry :: rest) roster) :
    Lists rest (roster.erase (Key.identity entry.row.displayKey)) := by
  have member : keyed entry ∈ roster.entries := lists ▸ Multiset.mem_coe.mpr List.mem_cons_self
  have held : roster.lookup (Key.identity entry.row.displayKey) = some entry.row :=
    Finmap.lookup_eq_some_iff.mpr member
  have whole : roster.entries = keyed entry ::ₘ (roster.erase (Key.identity entry.row.displayKey)).entries := by
    have restored := Finmap.entries_insert_of_notMem (b := entry.row)
      (Finmap.notMem_erase_self (a := Key.identity entry.row.displayKey) (s := roster))
    rwa [insert_erase, insert_lookup held] at restored
  exact (Multiset.cons_inj_right (keyed entry)).mp (lists.trans whole)

theorem replace (lists : Lists (entry :: rest) roster) (other : Entry)
    (same : Key.identity entry.row.displayKey = Key.identity other.row.displayKey) :
    Lists (other :: rest) (roster.insert (Key.identity other.row.displayKey) other.row) := by
  have without := lists.of_cons
  rw [same] at without
  have restored := without.cons other Finmap.notMem_erase_self
  rwa [insert_erase] at restored

end Lists

end Roster

end StreamTable
