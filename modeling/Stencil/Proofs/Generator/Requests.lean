import Stencil.Proofs.Commit.Unforced
import Stencil.Proofs.Preview.Plan
import Stencil.Proofs.Preview.Query

/-!
# Requests without force

Callers ask for one run after another in a workspace, each with a library, a schematic and options
of its own. A run leaves the files as they are or commits what it stages (`generate_cases`).

* `unforced_requests_keep`: whatever becomes of requests without force, all that was there stays, if
  at first a commit overlooks nothing.
* `unforced_request_loses`: below a root with `..` behind a missing directory a file is lost.
-/
namespace Stencil
open Disk

/-- A whole run leaves the files as they are, or it is no dry one, all files rendered, and it is a
commit of what it stages. -/
theorem Generator.generate_cases (g : Generator) (schematic : String) (raw : RawOptions)
    (d : Disk) :
    (Alike d (d.attempt (g.generate schematic raw)).2 ∧
        (d.attempt (g.generate schematic raw)).2.tree = d.tree) ∨
      ∃ s, g.stage schematic raw = .ok s ∧ s.options.dryRun = false ∧ s.failures = [] ∧
        (d.attempt (g.generate schematic raw)).2 =
          (d.run (Commit.run g.root s.options.force s.files)).2 := by
  rw [attempt_generate]
  cases hs : g.stage schematic raw with
  | error e => exact .inl ⟨.refl d, rfl⟩
  | ok s =>
    cases hdry : s.options.dryRun with
    | true =>
      left
      simp only [hdry, if_true]
      exact isQuery_preview g s d
    | false =>
      simp only [hdry, Bool.false_eq_true, if_false]
      cases hf : s.failures with
      | cons e rest =>
        left
        rw [commit_of_failure hf]
        exact ⟨.refl d, rfl⟩
      | nil =>
        right
        rw [commit_eq_run hf]
        exact ⟨s, rfl, hdry, hf, rfl⟩

/-- Where files lie, with their bytes. -/
def Disk.contents (d : Disk) : List (Location × ByteArray) :=
  d.tree.entries.toList.filterMap fun (l, e) =>
    match e with
    | .file content => some (l, content)
    | .directory => none

theorem Disk.mem_contents {d : Disk} {l : Location} {content : ByteArray}
    (h : d.tree.at? l = some (.file content)) : (l, content) ∈ d.contents := by
  have below : l ≠ [] := by
    rintro rfl
    cases h
  have entry : (l, Entry.file content) ∈ d.tree.entries.toList :=
    (SortedMap.mem_toList _ _ _).2 (by simpa [FileTree.at?, entryAt, below] using h)
  exact List.mem_filterMap.2 ⟨_, entry, rfl⟩

/-- What a caller asks for, and the mishap that the run meets. -/
structure Request where
  library : Library
  renderer : Template.Renderer
  schematic : String
  raw : RawOptions
  mishap : Option Mishap

namespace Request

/-- The generator that a request in a workspace goes to. -/
def generator (w : Workspace) (r : Request) : Generator :=
  { library := r.library, workspace := w, renderer := r.renderer }

/-- Whether the options of the request do not ask to replace files. -/
def IsUnforced (w : Workspace) (r : Request) : Prop :=
  ∀ s o, r.library.get r.schematic = .ok s →
    Options.normalize ((r.generator w).settings s) r.raw = .ok o → o.force = false

def carryOut (w : Workspace) (d : Disk) (r : Request) : Disk :=
  (Disk.attempt { d with mishap := r.mishap } ((r.generator w).generate r.schematic r.raw)).2

def carryOutAll (w : Workspace) (d : Disk) (requests : List Request) : Disk :=
  requests.foldl (carryOut w) d

variable {w : Workspace} {d : Disk}

/-- A request without force keeps what is there, and so will the next one. -/
theorem carryOut_keeps {r : Request} (hr : r.IsUnforced w)
    (sees : ∀ path, ¬ Commit.Overlooks d (Route.parse w.root) path) :
    d.Keeps (r.carryOut w d) ∧
      ∀ path, ¬ Commit.Overlooks (r.carryOut w d) (Route.parse w.root) path := by
  -- the mishap of the request changes nothing of what is there or found
  let d₀ : Disk := { d with mishap := r.mishap }
  have ha : Alike d d₀ := ⟨rfl, rfl⟩
  have sees₀ (path : String) : ¬ Commit.Overlooks d₀ (Route.parse w.root) path :=
    fun h => sees path (h.of_tree_eq ha rfl)
  rcases (r.generator w).generate_cases r.schematic r.raw d₀ with ⟨ha', ht⟩ | ⟨s, hs, -, -, e⟩
  · exact ⟨.of_tree_eq ht, fun path h => sees₀ path (h.of_tree_eq ha' ht)⟩
  · obtain ⟨source, hsource, ho, -⟩ := Generator.stage_ok hs
    rw [hr source s.options hsource ho] at e
    have valid := Generator.stage_valid hs
    rw [carryOut, e]
    exact ⟨Commit.unforced_keeps valid sees₀, Commit.unforced_overlooks valid sees₀⟩

/-- **Without force nothing that exists is changed,** whatever becomes of the requests, if a commit
overlooks nothing in the workspace as it is at first. -/
theorem unforced_requests_keep {requests : List Request} (hr : ∀ r ∈ requests, r.IsUnforced w)
    (sees : ∀ path, ¬ Commit.Overlooks d (Route.parse w.root) path) :
    d.Keeps (carryOutAll w d requests) := by
  induction requests generalizing d with
  | nil => exact .of_tree_eq rfl
  | cons r rest ih =>
    obtain ⟨first, others⟩ := List.forall_mem_cons.1 hr
    obtain ⟨keeps, sees'⟩ := carryOut_keeps first sees
    exact keeps.trans (ih others sees')

theorem isUnforced_of_normalize {r : Request} {s : Schematic}
    (hs : r.library.get r.schematic = .ok s)
    (ho : (Options.normalize ((r.generator w).settings s) r.raw).map (·.force) = .ok false) :
    r.IsUnforced w := by
  intro s' o hs' ho'
  obtain rfl : s = s' := Except.ok.inj (hs.symm.trans hs')
  rw [ho'] at ho
  exact Except.ok.inj ho

/-! ## Small requests -/

def forFile (path content : String) (raw : RawOptions) (mishap : Option Mishap) : Request :=
  { library :=
      .insert .empty { pairSchematic with name := "one", nodes := [⟨path, some content, []⟩] }
    renderer := Template.render, schematic := "one", raw := ("name", .string "user") :: raw
    mishap }

/-- A disk with a file `f` and a directory `sub`. -/
def busyDisk : Disk :=
  { tree := FileTree.empty |>.put ["f"] (.file "old".toUTF8) |>.put ["sub"] .directory
    here := [], admits := isCommonName, mishap := none }

/-- A preview, a commit that fails in the middle, one that goes through and one with a conflict. -/
def fourRequests : List Request :=
  [forFile "a/x" "1" [("dry_run", .bool true)] none,
    forFile "a/x" "1" [] (some ⟨1, .content "?".toUTF8, "full"⟩),
    forFile "a/x" "1" [] none, forFile "f" "new" [] none]

theorem busyDisk_kept :
    (carryOutAll ⟨"sub/..", "/"⟩ busyDisk fourRequests).contents =
        [(["a", "x"], "1".toUTF8), (["f"], "old".toUTF8)] ∧
      busyDisk.Keeps (carryOutAll ⟨"sub/..", "/"⟩ busyDisk fourRequests) := by
  refine ⟨by decide +kernel, unforced_requests_keep ?_ (Commit.not_overlooks_of_exits ?_)⟩
  · simp only [fourRequests, List.forall_mem_cons, List.not_mem_nil, false_imp_iff, implies_true,
      and_true]
    exact ⟨isUnforced_of_normalize rfl rfl, isUnforced_of_normalize rfl rfl,
      isUnforced_of_normalize rfl rfl, isUnforced_of_normalize rfl rfl⟩
  · decide

/-- Below a root with `..` behind a missing directory, a file is replaced without force. -/
theorem unforced_request_loses : ¬ ∀ (w : Workspace) (d : Disk) (requests : List Request),
    (∀ r ∈ requests, r.IsUnforced w) → d.Keeps (carryOutAll w d requests) := by
  intro claim
  let requests : List Request := [forFile "f" "new" [] none]
  have unforced : ∀ r ∈ requests, r.IsUnforced ⟨"new/..", "/"⟩ := by
    simp only [requests, List.mem_singleton, forall_eq]
    exact isUnforced_of_normalize rfl rfl
  have kept := claim ⟨"new/..", "/"⟩ busyDisk requests unforced ["f"] (.file "old".toUTF8) rfl
  have lost : (carryOutAll ⟨"new/..", "/"⟩ busyDisk requests).contents = [(["f"], "new".toUTF8)] := by
    decide +kernel
  have member := mem_contents kept
  rw [lost, List.mem_singleton] at member
  exact absurd member (by decide)

end Request
end Stencil
