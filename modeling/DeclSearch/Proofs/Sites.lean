/-
# One match for each site

`Searcher.distinctSites` carries the sites it has met along a list and leaves out every match that
stands at one of them.  What it keeps can be said without that memory: a match stays when no match
of the same site stands in front of it (`distinctSites_nil`).  So no two of the kept matches share a
site, and every site of the list keeps one (`nodup_sites`, `exists_firstReport_find?`).  Leaving out
whole sites beforehand or afterwards is the same (`filter_distinctSites`).  All of this is true of
the first item of any key (`distinctSites_eq_firsts`).
-/

import DeclSearch.Proofs.Firsts
import DeclSearch.Search

namespace DeclSearch

/-- Whether the match at an index of a list has a site that is none of some sites and that
no match in front of it has. -/
def Match.isFirst (seen : List Match.Site) (l : List Match) (entry : Match × Nat) : Bool :=
  !seen.contains entry.1.site && (l.take entry.2).all fun m => m.site ≠ entry.1.site

/-- The matches of a list in front of which no match of the same site stands. -/
def firstReports (l : List Match) : List Match :=
  (l.zipIdx.filter (Match.isFirst [] l)).map Prod.fst

namespace Searcher

/-- Matches are told apart by their sites. -/
theorem distinctSites_eq_firsts (l : List Match) (seen : List Match.Site) :
    distinctSites seen l = firsts Match.site seen l := by
  induction l generalizing seen with
  | nil => rfl
  | cons m rest ih => rw [distinctSites, firsts, ih, ih]

/-- **Merging keeps the first report of each site.** -/
theorem distinctSites_nil (l : List Match) : distinctSites [] l = firstReports l :=
  (distinctSites_eq_firsts l []).trans (firsts_eq l [])

/-- The kept matches are among all matches, and at sites that were not seen. -/
theorem mem_of_mem_distinctSites {l : List Match} {seen : List Match.Site} {m : Match}
    (h : m ∈ distinctSites seen l) : m ∈ l ∧ m.site ∉ seen := by
  rw [distinctSites_eq_firsts] at h
  exact mem_of_mem_firsts h

/-- No two of the kept matches share a site. -/
theorem nodup_sites (l : List Match) (seen : List Match.Site) :
    ((distinctSites seen l).map Match.site).Nodup := by
  rw [distinctSites_eq_firsts]
  exact nodup_keys l seen

/-- Which of the matches at a site stays does not depend on the matches at other sites. -/
theorem filter_distinctSites {q : Match.Site → Bool} {seen other : List Match.Site}
    (hseen : ∀ x, q x → (x ∈ seen ↔ x ∈ other)) (l : List Match) :
    (distinctSites seen l).filter (fun m => q m.site) =
      distinctSites other (l.filter fun m => q m.site) := by
  rw [distinctSites_eq_firsts, distinctSites_eq_firsts]
  exact filter_firsts hseen l

/-- **Every match of a list has a first report of its site**, which is the first match of the
list that stands there. -/
theorem exists_firstReport_find? {l : List Match} {m : Match} (hm : m ∈ l) :
    ∃ kept ∈ firstReports l, l.find? (fun other => other.site = m.site) = some kept := by
  rw [← distinctSites_nil, distinctSites_eq_firsts]
  exact exists_find?_eq_some hm List.not_mem_nil

/-- What stays at a site is the first match of the list there. -/
theorem find?_of_mem_firstReports {l : List Match} {m : Match} (hm : m ∈ firstReports l) :
    l.find? (fun other => other.site = m.site) = some m := by
  rw [← distinctSites_nil] at hm
  obtain ⟨kept, hkept, hfind⟩ := exists_firstReport_find? (mem_of_mem_distinctSites hm).1
  rw [← distinctSites_nil] at hkept
  have hsite : kept.site = m.site := by simpa using List.find?_some hfind
  rw [hfind, List.inj_on_of_nodup_map (nodup_sites l []) hkept hm hsite]

/-- Every match of a list has a first report of its site. -/
theorem exists_firstReport {l : List Match} {m : Match} (hm : m ∈ l) :
    ∃ kept ∈ firstReports l, kept.site = m.site := by
  obtain ⟨kept, hkept, hfind⟩ := exists_firstReport_find? hm
  exact ⟨kept, hkept, by simpa using List.find?_some hfind⟩

/-- The first reports of a list are none only if there are none. -/
theorem firstReports_eq_nil_iff {l : List Match} : firstReports l = [] ↔ l = [] := by
  rw [← distinctSites_nil]
  constructor
  · intro h
    rcases l with _ | ⟨m, rest⟩
    · rfl
    · simp [distinctSites] at h
  · rintro rfl
    rfl

end Searcher
end DeclSearch
