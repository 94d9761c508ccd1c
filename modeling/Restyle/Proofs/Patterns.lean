import Mathlib.Algebra.GroupWithZero.Nat
import Restyle.Proofs.Course
import Restyle.Proofs.Results
import Restyle.Proofs.Trimming

/-!
# Lists of patterns

Two lists of patterns with a comma between them stand for the files of the first one, followed by those
of the second one (`FileSet.resolve_append`), and the first failure among them counts. So patterns stand
for their files one after the other, however often they name the same ones
(`FileSet.resolve_intercalate`). Blanks around a list make no difference to it
(`FileSet.resolve_between`), and a list of blanks only stands for nothing (`FileSet.resolve_of_blank`).
-/

namespace Restyle

open Text

namespace FileSet

/-! ## Patterns -/

theorem comma_not_mem_blank {blank : String} (h : IsBlankText blank) : ',' ∉ blank.toList := by
  intro hmem
  have hcomma : isBlank ',' = false := by decide
  rw [h ',' hmem] at hcomma
  cases hcomma

theorem patterns_append (front back : String) :
    patterns (front ++ "," ++ back) = patterns front ++ patterns back := by
  have htext : (front ++ "," ++ back).toList = front.toList ++ ',' :: back.toList := by
    simp [String.toList_append]
  rw [patterns, splitString, htext, splitOn_append_sep, List.map_append, List.map_append]
  rfl

/-- Blanks around a list are trimmed off its first and its last pattern. -/
theorem patterns_between {front back : String} (hfront : IsBlankText front)
    (hback : IsBlankText back) (input : String) :
    patterns (front ++ input ++ back) = patterns input :=
  map_trim_between hfront hback (comma_not_mem_blank hfront) (comma_not_mem_blank hback) input

theorem patterns_of_single {pattern : String} (h : ',' ∉ pattern.toList) :
    patterns pattern = [trim pattern] := by
  rw [patterns, splitString, splitOn_of_not_mem h, List.map_singleton, List.map_singleton,
    String.ofList_toList]

/-! ## Their files -/

variable (t : Tree) (endings : List String)

/-- The files of a list that is given in two parts. -/
theorem resolve_append (front back : String) :
    resolve t (front ++ "," ++ back) endings = do
      return (← resolve t front endings) ++ (← resolve t back endings) := by
  rw [resolve, patterns_append, List.mapM_append, resolve, resolve]
  cases (patterns front).mapM fun pattern => (ofPattern t pattern endings).mapError fun fault =>
      Failure.unexplained (.file pattern fault) with
  | error e => rfl
  | ok first =>
    cases (patterns back).mapM fun pattern => (ofPattern t pattern endings).mapError fun fault =>
        Failure.unexplained (.file pattern fault) with
    | error e => rfl
    | ok second =>
      show Except.ok (first ++ second).flatten = Except.ok (first.flatten ++ second.flatten)
      rw [List.flatten_append]

theorem resolve_between {front back : String} (hfront : IsBlankText front)
    (hback : IsBlankText back) (input : String) :
    resolve t (front ++ input ++ back) endings = resolve t input endings := by
  rw [resolve, patterns_between hfront hback, resolve]

/-- The files of one pattern. -/
theorem resolve_of_single {pattern : String} (h : ',' ∉ pattern.toList) :
    resolve t pattern endings = (ofPattern t (trim pattern) endings).mapError fun fault =>
      .unexplained (.file (trim pattern) fault) := by
  rw [resolve, patterns_of_single h, List.mapM_cons, List.mapM_nil]
  cases ofPattern t (trim pattern) endings with
  | error fault => rfl
  | ok files =>
    show Except.ok [files].flatten = Except.ok files
    rw [List.flatten_singleton]

theorem resolve_of_blank {blank : String} (h : IsBlankText blank) :
    resolve t blank endings = .ok [] := by
  rw [resolve_of_single t endings (comma_not_mem_blank h), trim_eq_empty h]
  rfl

/-- A list with nothing but blanks on one side of a comma. -/
theorem resolve_beside_blank {blank : String} (h : IsBlankText blank) (input : String) :
    resolve t (blank ++ "," ++ input) endings = resolve t input endings ∧
      resolve t (input ++ "," ++ blank) endings = resolve t input endings := by
  rw [resolve_append, resolve_append, resolve_of_blank t endings h]
  cases resolve t input endings with
  | error e => exact ⟨rfl, rfl⟩
  | ok files =>
    refine ⟨rfl, ?_⟩
    show Except.ok (files ++ []) = Except.ok files
    rw [List.append_nil]

/-- The files of a list that is given in any number of parts. -/
theorem resolve_intercalate (inputs : List String) :
    resolve t (",".intercalate inputs) endings =
      (inputs.mapM fun input => resolve t input endings).map List.flatten := by
  induction inputs with
  | nil => exact resolve_of_blank t endings (by decide)
  | cons input rest ih =>
    by_cases hnil : rest = []
    · subst hnil
      rw [String.intercalate_singleton, List.mapM_cons, List.mapM_nil]
      cases resolve t input endings with
      | error e => rfl
      | ok files =>
        show Except.ok files = Except.ok [files].flatten
        rw [List.flatten_singleton]
    · rw [String.intercalate_cons_of_ne_nil hnil, resolve_append, ih, List.mapM_cons]
      cases resolve t input endings with
      | error e => rfl
      | ok files =>
        cases rest.mapM fun input => resolve t input endings with
        | error e => rfl
        | ok found => rfl

end FileSet

/-- **Lists of patterns.** In any tree, two lists of patterns with a comma between them come to what the
first comes to, followed by what the second comes to; so any number of lists with commas between them
come to their files in order, each path as often as in all of them together. One pattern comes to the
files that it stands for without the blanks around it. Blanks come to nothing, commas with nothing but
blanks before or behind them add nothing, and blanks around a comma make no difference. -/
theorem resolving_goes_by_parts (s : Session) (endings : List String) :
    let resolve (input : String) := ((Action.resolveFiles input endings).outcome s).1
    (∀ input, ((Action.resolveFiles input endings).outcome s).2.tree = s.tree) ∧
    (∀ front back, resolve (front ++ "," ++ back) = do
      return (← resolve front) ++ (← resolve back)) ∧
    (∀ pattern, ',' ∉ pattern.toList →
      resolve pattern = (FileSet.ofPattern s.tree (trim pattern) endings).mapError fun fault =>
        .unexplained (.file (trim pattern) fault)) ∧
    (∀ blank, IsBlankText blank → resolve blank = .ok [] ∧
      ∀ input, resolve (blank ++ "," ++ input) = resolve input ∧
        resolve (input ++ "," ++ blank) = resolve input) ∧
    (∀ left right front back, IsBlankText left → IsBlankText right →
      resolve (front ++ left ++ "," ++ right ++ back) = resolve (front ++ "," ++ back)) ∧
    ∀ inputs, resolve (",".intercalate inputs) = (inputs.mapM resolve).map List.flatten ∧
      ∀ founds, inputs.mapM resolve = .ok founds → ∃ files,
        resolve (",".intercalate inputs) = .ok files ∧
        ∀ path, files.count path = (founds.map (List.count path)).sum := by
  intro resolve
  have hresolve (input : String) : resolve input = FileSet.resolve s.tree input endings :=
    (Action.yields_resolveFiles s.web s.tree input endings).outcome_eq.1
  have hmany (inputs : List String) :
      resolve (",".intercalate inputs) = (inputs.mapM resolve).map List.flatten := by
    rw [funext hresolve]
    exact FileSet.resolve_intercalate s.tree endings inputs
  refine ⟨fun input => (Action.yields_resolveFiles s.web s.tree input endings).outcome_eq.2.1,
    fun front back => ?_, fun pattern h => ?_, fun blank h => ⟨?_, fun input => ?_⟩,
    fun left right front back hleft hright => ?_, fun inputs => ⟨hmany inputs, fun founds h => ?_⟩⟩
  · simp only [hresolve]
    exact FileSet.resolve_append s.tree endings front back
  · rw [hresolve]
    exact FileSet.resolve_of_single s.tree endings h
  · rw [hresolve]
    exact FileSet.resolve_of_blank s.tree endings h
  · simp only [hresolve]
    exact FileSet.resolve_beside_blank s.tree endings h input
  · have hfront := FileSet.resolve_between s.tree endings isBlankText_empty hleft front
    have hback := FileSet.resolve_between s.tree endings hright isBlankText_empty back
    rw [String.empty_append] at hfront
    rw [String.append_empty] at hback
    have hparts : front ++ left ++ "," ++ right ++ back = front ++ left ++ "," ++ (right ++ back) :=
      String.append_assoc
    rw [hresolve, hresolve, hparts, FileSet.resolve_append, FileSet.resolve_append, hfront, hback]
  · refine ⟨founds.flatten, ?_, fun path => List.count_flatten⟩
    rw [hmany, h]
    rfl

/-- Lists with blank patterns, with blanks around commas and with a file that is named several times. -/
theorem resolving_goes_by_parts_repeated :
    let t := (Tree.empty.place ["a.css"] (.file [])).place ["b.css"] (.file [])
    let s := Session.start t [] Web.unreachable
    let resolve (input : String) := ((Action.resolveFiles input [".css"]).outcome s).1
    resolve "b.css" = .ok ["b.css"] ∧ resolve " \n" = .ok [] ∧
    resolve ("b.css" ++ "," ++ " \n") = resolve "b.css" ∧
    resolve ("b.css" ++ "\t" ++ "," ++ "\u3000" ++ "a.css,q") = .ok ["b.css", "a.css"] ∧
    ∃ files, resolve (",".intercalate ["b.css", "", " ./b.css", "a.css,b.css"]) = .ok files ∧
      files.count "b.css" = 2 := by
  intro t s resolve
  obtain ⟨-, happend, hsingle, hblank, haround, hmany⟩ := resolving_goes_by_parts s [".css"]
  have hb : resolve "b.css" = .ok ["b.css"] := (hsingle "b.css" (by decide)).trans rfl
  have hsecond : resolve "a.css,q" = .ok ["a.css"] := eq_ok_of_gives (by decide +kernel)
  have hfounds : ["b.css", "", " ./b.css", "a.css,b.css"].mapM resolve =
      .ok [["b.css"], [], ["./b.css"], ["a.css", "b.css"]] := eq_ok_of_gives (by decide +kernel)
  obtain ⟨hnone, hbeside⟩ := hblank " \n" (by decide)
  refine ⟨hb, hnone, (hbeside "b.css").2, ?_, ?_⟩
  · refine (haround "\t" "\u3000" "b.css" "a.css,q" (by decide) (by decide)).trans ?_
    refine (happend "b.css" "a.css,q").trans ?_
    show (do return (← resolve "b.css") ++ (← resolve "a.css,q")) = _
    rw [hb, hsecond]
    rfl
  · obtain ⟨files, hfiles, hcount⟩ := (hmany _).2 _ hfounds
    exact ⟨files, hfiles, hcount "b.css"⟩

end Restyle
