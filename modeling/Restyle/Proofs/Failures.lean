import Restyle.Proofs.Course
import Restyle.Proofs.Results

/-!
# Failures of a run

A failure ends a run where it happens, and what was done before stays done. Its kind tells how far
the run came: without a change list nothing was touched; with a summary that cannot be reported all
files went through; and a file that cannot be renamed in stops the run between the files before it
and those behind it. If that file cannot be read it is as it was. If what it becomes cannot be
written, it is left empty.
-/

namespace Restyle

open Text

/-! ## Kinds of failures -/

theorem Failure.ofSummary_cases (path : String) (fault : FileFault) :
    Failure.ofSummary path fault = .summary path fault ∨
      ∃ f, Failure.ofSummary path fault = .unexplained f := by
  unfold Failure.ofSummary
  split
  · exact .inr ⟨_, rfl⟩
  · exact .inl rfl

theorem Failure.ofFetch_cases (url : String) (e : FetchError) :
    (∃ fault, Failure.ofFetch url e = .fetch url fault) ∨
      ∃ f, Failure.ofFetch url e = .unexplained f := by
  cases e with
  | refused fault => exact .inl ⟨fault, rfl⟩
  | malformedUrl => exact .inr ⟨_, rfl⟩
  | schemeless => exact .inr ⟨_, rfl⟩

theorem Web.index_error {web : Web} {followRedirects : Bool} {url : String} {e : Failure}
    (h : web.index followRedirects url = .error e) :
    (∃ fault, e = .fetch url fault) ∨ ∃ f, e = .unexplained f := by
  rw [Web.index, Web.changeList] at h
  cases hfetch : (web.fetch followRedirects url).2 with
  | error fault =>
    rw [hfetch] at h
    cases h
    exact Failure.ofFetch_cases url fault
  | ok response =>
    rw [hfetch] at h
    cases htext : response.text web.names with
    | ok text =>
      simp only [htext] at h
      cases h
    | error fault =>
      simp only [htext] at h
      cases h
      exact .inr ⟨_, rfl⟩

theorem FileSet.resolve_error {t : Tree} {input : String} {endings : List String} {e : Failure}
    (h : resolve t input endings = .error e) : ∃ f, e = .unexplained f := by
  rw [resolve] at h
  cases hall : (patterns input).mapM fun pattern =>
      (ofPattern t pattern endings).mapError fun fault =>
        Failure.unexplained (.file pattern fault) with
  | ok found =>
    rw [hall] at h
    cases h
  | error e' =>
    rw [hall] at h
    cases h
    obtain ⟨pattern, -, hpattern⟩ := exists_of_mapM_error hall
    cases hfound : ofPattern t pattern endings with
    | ok files =>
      rw [hfound] at hpattern
      cases hpattern
    | error fault =>
      rw [hfound] at hpattern
      cases hpattern
      exact ⟨_, rfl⟩

/-! ## Where renaming stops -/

theorem Stopped.sameDirectories {index : Index} {path : String} {t tree : Tree} {e : Failure}
    (h : Stopped index path e t tree) : t.SameDirectories tree := by
  cases h with
  | unread => exact .refl t
  | unwritten => exact Tree.sameDirectories_place t _ _

end Restyle
