import ClangIndex.Proofs.DisposalOutcome
import ClangIndex.Proofs.ReleaseOnce

namespace ClangIndex

open Native (Call Function Side)

theorem Dealing.party_of_releases {c : Dealing} {h : Handle} (r : c.releases h = true) :
    ∃ p ∈ c.parties, p.handle = h := by
  have client : h ∈ c.clients := by simpa using (Bool.and_eq_true_iff.mp r).2
  obtain ⟨p, among, same⟩ := List.mem_map.mp client
  refine ⟨p, ?_, same⟩
  cases holder : c.holder with
  | none =>
    rw [holder] at among
    exact List.mem_append_left _ among
  | some q =>
    rw [holder] at among
    exact List.mem_append_right _ (by rw [holder]; exact among)

namespace World

/-- A diagnostic belongs to an owner, which is no diagnostic itself. -/
structure Owns (w : World) (owner d : Handle) : Prop where
  apart : owner.cls ≠ .diagnostic
  belongs : (w.role d).owner = some owner
  stands : ∃ s, w.handle? owner = some s

def isOver (w : World) (owner d : Handle) : Bool := w.isDisposed d || w.isDisposed owner

namespace Owns

variable {w v : World} {owner d : Handle}

theorem cls (own : w.Owns owner d) : d.cls = .diagnostic := Handle.cls_of_owner own.belongs

theorem ne (own : w.Owns owner d) : owner ≠ d := fun same => own.apart (same ▸ own.cls)

theorem handle? (own : w.Owns owner d) :
    ∃ s, w.handle? d = some s ∧ s.role.owner = some owner := by
  have belongs := own.belongs
  unfold World.role at belongs
  cases e : w.handle? d with
  | none =>
    rw [e] at belongs
    cases belongs
  | some s =>
    rw [e] at belongs
    exact ⟨s, rfl, belongs⟩

theorem evolves (own : w.Owns owner d) (k : w.Evolves v) : v.Owns owner d := by
  obtain ⟨s, stands, belongs⟩ := own.handle?
  obtain ⟨o, there⟩ := own.stands
  obtain ⟨t, still, -, same, -⟩ := Evolution.standing k
    (show w.accounts.standing? d = some s.standing by simp [standing?_accounts, stands])
  obtain ⟨s', there', -⟩ := Evolves.handle k there
  rw [standing?_accounts] at still
  obtain ⟨t, stands', rfl⟩ := Option.map_eq_some_iff.mp still
  exact ⟨own.apart, by simpa [role, stands', belongs] using same, s', there'⟩

theorem usable (own : w.Owns owner d) (live : w.isOver owner d = false) : d.Usable w := by
  obtain ⟨alive, held⟩ := Bool.or_eq_false_iff.mp live
  refine ⟨alive, fun o e => ?_⟩
  cases own.belongs.symm.trans e
  exact held

theorem obstacle (own : w.Owns owner d) (past : w.isOver owner d = true) :
    ∃ e : Failure, d.obstacle w = some e ∧ e.class? = some .disposedHandle := by
  cases gone : w.isDisposed owner with
  | true => exact ⟨_, Handle.obstacle_of_owner own.belongs gone, rfl⟩
  | false =>
    have live (o) (e : (w.role d).owner = some o) : w.isDisposed o = false := by
      cases own.belongs.symm.trans e
      exact gone
    have gone : w.isDisposed d = true := by simpa [isOver, gone] using past
    exact ⟨_, Handle.obstacle_of_disposed live gone, rfl⟩

theorem spent (own : w.Owns owner d) (past : w.isOver owner d = true) : w.accounts.Spent d := by
  obtain ⟨s, stands, belongs⟩ := own.handle?
  obtain ⟨o, there⟩ := own.stands
  refine spent_of_handle? stands ((Bool.or_eq_true_iff.mp past).imp (fun gone => ?_)
    fun gone => ⟨owner, o, belongs, there, ?_⟩)
  · simpa [isDisposed, held?, stands] using gone
  · simpa [isDisposed, held?, there] using gone

theorem unused (own : w.Owns owner d) (past : w.isOver owner d = true) (k : w.Evolves v) :
    ∃ new, v.dealings = new ++ w.dealings ∧ ∀ c ∈ new, ∀ p ∈ c.parties, p.handle ≠ d := by
  obtain ⟨new, made, unspent⟩ := Evolution.later k
  exact ⟨new, made, fun c m p mp same => unspent c m p mp (same ▸ own.spent past)⟩

end Owns

def farewell (w : World) (d : Handle) : Dealing where
  call := ⟨.disposeDiagnostic, [.handle (w.symbol? d)]⟩
  arguments := []
  holder := some ⟨d, false⟩

/-- Diagnostics were disposed of: those that could be used were given back in order, and nothing
else was. -/
structure Retired (w : World) (owner : Handle) (ds : List Handle) (v : World) : Prop where
  gone : ∀ d ∈ ds, v.isDisposed d = true
  others : ∀ k, k ∉ ds → v.handle? k = w.handle? k
  completions : v.completions = w.completions
  made : v.dealings =
    ((ds.filter fun d => !w.isOver owner d).map w.farewell).reverse ++ w.dealings

end World

namespace Handle

variable {side : Side} {w : World} {owner d : Handle}

theorem dispose_of_usable (own : w.Owns owner d) (live : w.isOver owner d = false)
    (side : Side) :
    ∃ records, d.dispose.exec side w =
      (.ok (), { w.retire d with dealings := w.farewell d :: w.dealings, records }) := by
  obtain ⟨alive, owned⟩ := own.usable live
  obtain ⟨held, holds⟩ : ∃ held, w.held? d = some held := by
    simpa [World.isDisposed, Option.isSome_iff_exists] using alive
  have cls := own.cls
  have symbol : w.symbol? d = w.symbolOf held := by simp [World.symbol?, holds]
  have role : (w.role d).returns? w d.cls (w.symbolOf held) =
      some [.native (.handle (w.symbolOf held))] := by
    rw [returns?_of_not_tokens (by simp [cls]) ?_ owned, cls]
    · simp [Native.HandleClass.emptyWhenNull]
    · cases role : w.role d with
      | unit v owned =>
        have belongs := own.belongs
        rw [role] at belongs
        cases belongs
      | _ => rfl
  have release : d.release? w held =
      some (.disposeDiagnostic, [.native (.handle (w.symbolOf held))]) := by
    rw [release?, role, cls]
    rfl
  have made : Function.disposeDiagnostic.perform (some d) [.native (.handle (w.symbolOf held))] side
      (w.retire d) = (.ok ((w.farewell d).call, side.answer (w.retire d).calls (w.farewell d).call),
        { w.retire d with dealings := w.farewell d :: w.dealings }) := by
    rw [World.farewell, symbol, ← party_retire w d]
    rfl
  have given : d.giveUp.exec side w = (.ok (some .disposeDiagnostic),
      { w.retire d with dealings := w.farewell d :: w.dealings }) := by
    simp [Binding.exec, giveUp, holds, release, made, Except.map]
  rw [dispose, Binding.exec_bind_ok given]
  exact ⟨_, rfl⟩

theorem dispose_of_over (own : w.Owns owner d) (past : w.isOver owner d = true) :
    d.dispose.exec side w = (.ok (), if w.isDisposed d then w else w.retire d) := by
  cases gone : w.isDisposed d with
  | true =>
    have empty : w.held? d = none := by simpa [World.isDisposed] using gone
    have given : d.giveUp.exec side w = (.ok none, w) := by simp [Binding.exec, giveUp, empty]
    rw [dispose, Binding.exec_bind_ok given]
    rfl
  | false =>
    obtain ⟨held, holds⟩ : ∃ held, w.held? d = some held := by
      simpa [World.isDisposed, Option.isSome_iff_exists] using gone
    have left : w.isDisposed owner = true := by simpa [World.isOver, gone] using past
    refine dispose_of_no_release holds ?_
    simp [release?, Role.returns?, own.belongs, left]

theorem exec_dispose (own : w.Owns owner d) (side : Side) :
    ∃ v, d.dispose.exec side w = (.ok (), v) ∧ w.Retired owner [d] v := by
  have retired (k : Handle) (other : k ∉ [d]) : (w.retire d).handle? k = w.handle? k :=
    World.handle?_retire_other (List.ne_of_not_mem_cons other)
  have gone : ∀ k ∈ [d], (w.retire d).isDisposed k = true := fun k m =>
    List.mem_singleton.mp m ▸ w.isDisposed_retire d
  cases past : w.isOver owner d with
  | true =>
    refine ⟨_, dispose_of_over own past, ?_⟩
    cases spent : w.isDisposed d with
    | true => exact ⟨by simp [spent], fun _ _ => rfl, rfl, by simp [past]⟩
    | false => exact ⟨gone, retired, rfl, by simp [past]; rfl⟩
  | false =>
    obtain ⟨records, done⟩ := dispose_of_usable own past side
    exact ⟨_, done, gone, retired, rfl, by simp [past]⟩

end Handle

namespace World

variable {side : Side} {w u v : World} {owner d k : Handle}

theorem isDisposed_of_handle? (same : v.handle? k = w.handle? k) :
    v.isDisposed k = w.isDisposed k := by
  simp only [isDisposed, held?, same]

namespace Retired

variable {ds : List Handle}

theorem isOver (done : w.Retired owner [d] u) (own : w.Owns owner d) (other : k ≠ d) :
    u.isOver owner k = w.isOver owner k := by
  have same : u.handle? k = w.handle? k := done.others k (by simpa using other)
  have owned : u.handle? owner = w.handle? owner := done.others owner (by simpa using own.ne)
  rw [World.isOver, World.isOver, isDisposed_of_handle? same, isDisposed_of_handle? owned]

theorem farewell (done : w.Retired owner [d] u) (other : k ≠ d) : u.farewell k = w.farewell k := by
  have same : u.handle? k = w.handle? k := done.others k (by simpa using other)
  have symbolOf (held : Held) : u.symbolOf held = w.symbolOf held := by
    cases held with
    | handle => rfl
    | place array i => simp only [World.symbolOf, done.completions]
  simp only [World.farewell, symbol?, held?, same, funext symbolOf]

theorem cons (done : w.Retired owner [d] u) (own : w.Owns owner d) (fresh : d ∉ ds)
    (rest : u.Retired owner ds v) : w.Retired owner (d :: ds) v := by
  have other {k : Handle} (m : k ∈ ds) : k ≠ d := fun same => fresh (same ▸ m)
  refine ⟨fun k m => ?_, fun k n => ?_, rest.completions.trans done.completions, ?_⟩
  · obtain rfl | m := List.mem_cons.mp m
    · rw [isDisposed_of_handle? (rest.others k fresh)]
      exact done.gone k List.mem_cons_self
    · exact rest.gone k m
  · rw [rest.others k (List.not_mem_of_not_mem_cons n)]
    exact done.others k (by simpa using List.ne_of_not_mem_cons n)
  · have still : ds.filter (fun k => !u.isOver owner k) = ds.filter fun k => !w.isOver owner k :=
      List.filter_congr fun k m => by rw [done.isOver own (other m)]
    have calls : (ds.filter fun k => !w.isOver owner k).map u.farewell =
        (ds.filter fun k => !w.isOver owner k).map w.farewell :=
      List.map_congr_left fun k m => done.farewell (other (List.mem_filter.mp m).1)
    rw [rest.made, done.made, still, calls]
    cases past : w.isOver owner d <;> simp [past]

end Retired

end World

namespace Value

variable {side : Side} {w : World} {owner : Handle} {ds : List Handle}

theorem disposeWithin_handle (depth : Nat) (h : Handle) :
    (Value.handle h).disposeWithin depth = h.dispose := by
  cases depth <;> rfl

theorem exec_disposeEach (side : Side) (depth : Nat) (distinct : ds.Nodup)
    (owns : ∀ d ∈ ds, w.Owns owner d) :
    ∃ v, ((ds.map Value.handle).forM (disposeWithin depth)).exec side w = (.ok (), v) ∧
      w.Retired owner ds v := by
  induction ds generalizing w with
  | nil => exact ⟨w, rfl, nofun, fun _ _ => rfl, rfl, rfl⟩
  | cons d r ih =>
    obtain ⟨fresh, distinct⟩ := List.nodup_cons.mp distinct
    have own := owns d List.mem_cons_self
    have others (k) (m : k ∈ r) : w.Owns owner k := owns k (List.mem_cons_of_mem d m)
    obtain ⟨u, first, done⟩ := Handle.exec_dispose own side
    have later : w.Evolves u := .of_result first
    obtain ⟨v, next, rest⟩ := ih distinct fun k m => (others k m).evolves later
    refine ⟨v, ?_, done.cons own fresh rest⟩
    rw [← disposeWithin_handle depth d] at first
    exact (Binding.exec_bind_ok first).trans next

theorem exec_dispose_diagnostics (distinct : ds.Nodup) (owns : ∀ d ∈ ds, w.Owns owner d)
    (side : Side) (id : Nat) :
    ∃ v, (Value.diagnostics (ds.map .handle) id).dispose.exec side w = (.ok (), v) ∧
      (Value.diagnostics (ds.map .handle) id).leave =
        (Value.diagnostics (ds.map .handle) id).dispose ∧ w.Retired owner ds v := by
  obtain ⟨v, done, retired⟩ := exec_disposeEach side _ distinct owns
  exact ⟨v, done, rfl, retired⟩

end Value

namespace Diagnostics

variable {side : Side} {w v : World} {owner d : Handle} {f : Function}

def Adds (w v : World) : Prop := ∃ new, v.handles.toList = w.handles.toList ++ new

theorem Adds.handle? (h : Adds w v) {k : Handle} {s : HandleState} (e : w.handle? k = some s) :
    v.handle? k = some s := by
  obtain ⟨new, added⟩ := h
  obtain ⟨at_, cls⟩ := Option.filter_eq_some_iff.mp e
  rw [← Array.getElem?_toList] at at_
  refine Option.filter_eq_some_iff.mpr ⟨?_, cls⟩
  rw [← Array.getElem?_toList, added]
  exact getElem?_append_of_some at_ new

theorem adds_of_invoke {actuals : List Actual} {keeps : f.releases = false}
    {r : Call × Native.Answer}
    (e : (f.invoke actuals keeps).exec side w = (.ok r, v)) : v.handles = w.handles := by
  obtain ⟨x, refused⟩ | ⟨d, made, -⟩ := f.perform_cases none actuals side w
  · cases refused.symm.trans e
  · cases made.symm.trans e
    rfl

structure IsNew (w v : World) (owner d : Handle) : Prop where
  cls : d.cls = .diagnostic
  fresh : w.handles.size ≤ d.id
  stands : ∃ s, v.handle? d = some s ∧ s.role = .diagnostic (some owner) ∧ s.held ≠ none

theorem exec_invoke_of_obstacle {d : Handle} {x : Failure} (spent : d.obstacle w = some x)
    (rest : List Actual) {keeps : f.releases = false} :
    (f.invoke (.value (.handle d) :: rest) keeps).exec side w = (.error x, w) :=
  f.perform_unusable [] (fun _ m => nomatch m) spent

theorem exec_item (check : f.signature.check = some .diagnostic) {keeps : f.releases = false} {i : Int}
    {r : Value}
    (e : (f.call [.value (.handle owner), .value (.int i)] keeps).exec side w = (.ok r, v)) :
    r = .handle ⟨.diagnostic, w.handles.size⟩ ∧ Adds w v ∧
      v.handles.size = w.handles.size + 1 ∧ IsNew w v owner ⟨.diagnostic, w.handles.size⟩ := by
  obtain ⟨⟨call, answer⟩, u, invoked, e⟩ := Binding.exec_bind_cases e
  simp only [check] at e
  have same := adds_of_invoke invoked
  cases e
  refine ⟨by rw [same], ⟨_, by rw [Array.toList_push, same]⟩, by simp [same], rfl, Nat.le_refl _,
    ⟨.diagnostic, some (.handle answer.handle), .diagnostic (some owner), none, rfl⟩, ?_, rfl,
    nofun⟩
  simp [World.handle?, same, Option.filter]
  rfl

theorem exec_items (check : f.signature.check = some .diagnostic) {keeps : f.releases = false} {is : List Int}
    {rs : List Value}
    (e : (is.mapM fun i => f.call [.value (.handle owner), .value (.int i)] keeps).exec side w =
      (.ok rs, v)) :
    ∃ ds : List Handle, rs = ds.map .handle ∧ ds.length = is.length ∧ ds.Nodup ∧ Adds w v ∧
      ∀ d ∈ ds, IsNew w v owner d := by
  induction is generalizing w rs with
  | nil =>
    cases e
    exact ⟨[], rfl, rfl, .nil, ⟨[], (List.append_nil _).symm⟩, nofun⟩
  | cons i r ih =>
    rw [List.mapM_cons] at e
    obtain ⟨x, u, first, e⟩ := Binding.exec_bind_cases e
    obtain ⟨xs, u', others, e⟩ := Binding.exec_bind_cases e
    cases e
    obtain ⟨rfl, ⟨new, added⟩, size, isNew⟩ := exec_item check first
    obtain ⟨ds, rfl, length, distinct, ⟨new', added'⟩, allNew⟩ := ih others
    refine ⟨⟨.diagnostic, w.handles.size⟩ :: ds, rfl, by simp [length],
      List.nodup_cons.mpr ⟨fun m => ?_, distinct⟩,
      ⟨new ++ new', by rw [added', added, List.append_assoc]⟩, fun d m => ?_⟩
    · have later := (allNew _ m).fresh
      rw [size] at later
      exact Nat.not_succ_le_self _ later
    · obtain rfl | m := List.mem_cons.mp m
      · obtain ⟨s, stands, role, held⟩ := isNew.stands
        exact ⟨rfl, Nat.le_refl _, s, Adds.handle? ⟨new', added'⟩ stands, role, held⟩
      · have inside := allNew d m
        have fresh := inside.fresh
        exact ⟨inside.cls, by omega, inside.stands⟩

theorem IsNew.owns (made : IsNew w v owner d) (apart : owner.cls ≠ .diagnostic)
    (stands : ∃ s, v.handle? owner = some s) :
    w.handle? d = none ∧ v.Owns owner d ∧ v.isDisposed d = false := by
  obtain ⟨s, there, role, held⟩ := made.stands
  refine ⟨?_, ⟨apart, by simp [World.role, there, role, Role.owner], stands⟩, ?_⟩
  · rw [World.handle?, Array.getElem?_eq_none made.fresh]
    rfl
  · simpa [World.isDisposed, World.held?, there, Option.isSome_iff_ne_none] using held

/-- What reading gives: a list of new diagnostics, all of which belong to the owner. -/
def Reads (w v : World) (owner : Handle) (r : Value) : Prop :=
  ∃ (ds : List Handle) (id : Nat), r = .diagnostics (ds.map .handle) id ∧ ds.Nodup ∧
    ∀ d ∈ ds, w.handle? d = none ∧ v.Owns owner d ∧ v.isDisposed d = false

theorem reads_of_ofOwner {count item : Function} {countKeeps : count.releases = false}
    {itemKeeps : item.releases = false}
    (check : item.signature.check = some .diagnostic) (apart : owner.cls ≠ .diagnostic) {r : Value}
    (e : (ofOwner owner count item countKeeps itemKeeps).exec side w = (.ok r, v)) :
    Reads w v owner r := by
  have later : w.Evolves v := .of_result e
  obtain ⟨n, u, counted, e⟩ := Binding.exec_bind_cases e
  obtain ⟨rs, u', read, e⟩ := Binding.exec_bind_cases e
  cases e
  obtain ⟨_, u'', asked, same⟩ := Binding.exec_bind_cases counted
  cases same
  have live : owner.obstacle w = none := by
    cases spent : owner.obstacle w with
    | none => rfl
    | some x => cases (exec_invoke_of_obstacle spent []).symm.trans asked
  obtain ⟨s, there⟩ : ∃ s, w.handle? owner = some s := by
    have live := (Handle.obstacle_eq_none.mp live).1
    cases there : w.handle? owner with
    | some s => exact ⟨s, rfl⟩
    | none => simp [World.isDisposed, World.held?, there] at live
  obtain ⟨s', there', -⟩ := World.Evolves.handle later there
  obtain ⟨ds, rfl, -, distinct, -, allNew⟩ := exec_items check read
  have same := adds_of_invoke asked
  refine ⟨ds, _, rfl, distinct, fun d m => ?_⟩
  have made := allNew d m
  exact IsNew.owns ⟨made.cls, same ▸ made.fresh, made.stands⟩ apart ⟨s', there'⟩

end Diagnostics

theorem TranslationUnit.reads_diagnostics {side : Side} {w v : World} {u : Handle} {r : Value}
    (cls : u.cls = .translationUnit) (e : (diagnostics u).exec side w = (.ok r, v)) :
    Diagnostics.Reads w v u r :=
  Diagnostics.reads_of_ofOwner rfl (by simp [cls]) e

theorem CodeCompleteResults.reads_diagnostics {side : Side} {w v : World} {h : Handle} {r : Value}
    (cls : h.cls = .codeCompleteResults) (e : (diagnostics h).exec side w = (.ok r, v)) :
    Diagnostics.Reads w v h r := by
  rw [diagnostics, Binding.exec_bind_ok (show World.now.exec side w = (.ok w, w) from rfl)] at e
  split at e
  · cases e
    exact ⟨[], _, rfl, .nil, nofun⟩
  · exact Diagnostics.reads_of_ofOwner rfl (by simp [cls]) e

namespace Value

variable {side : Side} {w : World} {d : Handle} {x : Failure}

def read (v : Value) (name : String) : Binding Value := do
  (← v.named name).get

theorem read_of_property {v : Value} {name : String} {m : Binding Value}
    (e : lookup name (Interface.attributes v) = some (.property m)) :
    (v.read name).exec side w = m.exec side w := by
  have named : (v.named name).exec side w = (.ok (.property m), w) := by
    rw [Value.named, Binding.exec_bind_ok (show World.now.exec side w = (.ok w, w) from rfl), e]
    cases v.attribute? w name <;> rfl
  rw [read, Binding.exec_bind_ok named]
  rfl

end Value

namespace Diagnostic

variable {side : Side} {w : World} {d : Handle} {x : Failure}

def queries : List String :=
  ["severity", "location", "spelling", "option", "ranges", "fixits", "category_number",
    "category_text"]

theorem fails_of_obstacle (spent : d.obstacle w = some x) (f : Function) (rest : List Actual)
    {keeps : f.releases = false} {α : Type} (k : Call × Native.Answer → Binding α) :
    (f.invoke (.value (.handle d) :: rest) keeps >>= k).exec side w = (.error x, w) :=
  Binding.exec_bind_error (Diagnostics.exec_invoke_of_obstacle spent rest)

theorem ask_of_obstacle (spent : d.obstacle w = some x) (f : Function) (reading : Reading)
    {keeps : f.releases = false} :
    (f.ask [.handle d] reading keeps).exec side w = (.error x, w) :=
  Binding.exec_bind_error (fails_of_obstacle spent f [] _)

theorem number_of_obstacle (spent : d.obstacle w = some x) (f : Function) (rest : List Actual)
    {keeps : f.releases = false} :
    (f.number (.value (.handle d) :: rest) keeps).exec side w = (.error x, w) :=
  fails_of_obstacle spent f rest _

theorem text_of_obstacle (spent : d.obstacle w = some x) (f : Function) (rest : List Actual)
    {keeps : f.releases = false} :
    (f.text (.value (.handle d) :: rest) keeps).exec side w = (.error x, w) :=
  fails_of_obstacle spent f rest _

theorem exec_query (cls : d.cls = .diagnostic) (spent : d.obstacle w = some x) {name : String}
    (m : name ∈ queries) : ((Value.handle d).read name).exec side w = (.error x, w) := by
  have attributes : Interface.attributes (.handle d) =
      Interface.ofAnyHandle d ++ Interface.ofDiagnostic d := by
    simp only [Interface.attributes, Interface.ofHandle, cls]
  have reads {name : String} {q : Binding Value}
      (e : lookup name (Interface.ofAnyHandle d ++ Interface.ofDiagnostic d) = some (.property q)) :
      ((Value.handle d).read name).exec side w = q.exec side w :=
    Value.read_of_property (attributes ▸ e)
  simp only [queries, List.mem_cons, List.not_mem_nil, or_false] at m
  obtain rfl | rfl | rfl | rfl | rfl | rfl | rfl | rfl := m
  · exact (reads rfl).trans (ask_of_obstacle spent _ _)
  · exact (reads rfl).trans (ask_of_obstacle spent _ _)
  · exact (reads rfl).trans (ask_of_obstacle spent _ _)
  · exact (reads rfl).trans (fails_of_obstacle spent _ _ _)
  · exact (reads rfl).trans (Binding.exec_bind_error (number_of_obstacle spent _ _))
  · exact (reads rfl).trans (Binding.exec_bind_error (number_of_obstacle spent _ _))
  · exact (reads rfl).trans (ask_of_obstacle spent _ _)
  · exact (reads rfl).trans (ask_of_obstacle spent _ _)

theorem exec_repr (cls : d.cls = .diagnostic) (spent : d.obstacle w = some x) :
    ((Value.handle d).repr).exec side w = (.error x, w) := by
  have shown : (Value.handle d).repr = Diagnostic.repr d := by
    change d.repr = _
    rw [Handle.repr, cls]
  rw [shown, Diagnostic.repr, severity, Binding.exec_bind_error]
  exact Binding.exec_bind_error (number_of_obstacle spent _ _)

def Readable (options : Value) : Prop := options = .none ∨ ∃ n, options.toInteger = .ok n

theorem format_of_given {options : Value} (given : options ≠ .none) :
    format d options = (liftM options.toInteger : Binding Int) >>= fun n =>
      Function.formatDiagnostic.text [.value (.handle d), .value (.int n)] := by
  cases options with
  | none => exact absurd rfl given
  | _ => rfl

theorem exec_format_unread {options : Value} {e : Failure} (given : options ≠ .none)
    (unread : options.toInteger = .error e) : (format d options).exec side w = (.error e, w) := by
  rw [format_of_given given, unread]
  rfl

theorem exec_format (spent : d.obstacle w = some x) {options : Value} (r : Readable options) :
    ∃ v new, (format d options).exec side w = (.error x, v) ∧ v.dealings = new ++ w.dealings ∧
      ∀ c ∈ new, c.parties = [] := by
  obtain rfl | ⟨n, e⟩ := r
  · let asked : Call := ⟨.defaultDiagnosticDisplayOptions, []⟩
    let v : World := { w with dealings := ⟨asked, [], none⟩ :: w.dealings }
    have invoked : (Function.defaultDiagnosticDisplayOptions.invoke []).exec side w =
        (.ok (asked, side.answer w.calls asked), v) := rfl
    have preferred : (Function.defaultDiagnosticDisplayOptions.number []).exec side w =
        (.ok ((side.answer w.calls asked).number asked), v) :=
      (Binding.exec_bind_ok invoked).trans (Binding.exec_pure _)
    refine ⟨v, [⟨asked, [], none⟩], ?_, rfl, by simp [Dealing.parties]⟩
    have still : d.obstacle v = some x := spent
    rw [format, Binding.exec_bind_ok preferred]
    exact text_of_obstacle still _ _
  · refine ⟨w, [], ?_, rfl, List.forall_mem_nil _⟩
    have given : options ≠ .none := fun none => by
      rw [none] at e
      cases e
    rw [format_of_given given, e]
    change (Function.formatDiagnostic.text [.value (.handle d), .value (.int n)]).exec side w = _
    exact text_of_obstacle spent _ _

/-- What can still be done with a diagnostic that was disposed of, or whose owner was: disposing of
it is silent, and whatever it is asked fails without a call for it. -/
structure Ended (side : Side) (w : World) (d : Handle) : Prop where
  dispose : ∃ v, d.dispose.exec side w = (.ok (), v) ∧ v.isDisposed d = true ∧
    v.dealings = w.dealings
  asked : ∃ x : Failure, x.class? = some .disposedHandle ∧
    (∀ name ∈ queries, ((Value.handle d).read name).exec side w = (.error x, w)) ∧
    (∀ options, Readable options → ∃ v new, (format d options).exec side w = (.error x, v) ∧
      v.dealings = new ++ w.dealings ∧ ∀ c ∈ new, c.parties = []) ∧
    ((Value.handle d).repr).exec side w = (.error x, w)
  unread : ∀ options e, options ≠ .none → options.toInteger = .error e →
    (format d options).exec side w = (.error e, w)
  later : ∀ v, w.Evolves v →
    ∃ new, v.dealings = new ++ w.dealings ∧ ∀ c ∈ new, ∀ p ∈ c.parties, p.handle ≠ d

theorem ended_of_over {owner : Handle} (own : w.Owns owner d) (past : w.isOver owner d = true)
    (side : Side) : Ended side w d := by
  obtain ⟨v, done, retired⟩ := Handle.exec_dispose own side
  obtain ⟨x, spent, cls⟩ := own.obstacle past
  exact ⟨⟨v, done, retired.gone d List.mem_cons_self, by simp [retired.made, past]⟩,
    ⟨x, cls, fun _ => exec_query own.cls spent, fun _ => exec_format spent,
      exec_repr own.cls spent⟩,
    fun _ _ given unread => exec_format_unread given unread,
    fun _ => own.unused past⟩

end Diagnostic

namespace Session

/-- The diagnostics that are read from a unit or from completion results belong to it for good. Each
is given back at most once in a session, and disposing of it, alone or in its list, gives it back
just if neither it nor its owner was disposed of before; when one of them was, it has no part in any
call that is made afterwards. -/
theorem diagnostics_end_with_owner (side : Side) (steps : List Step) :
    (∀ (owner : Handle) (w v : World) (r : Value),
      (owner.cls = .translationUnit ∧
        (TranslationUnit.diagnostics owner).exec side w = (.ok r, v)) ∨
      (owner.cls = .codeCompleteResults ∧
        (CodeCompleteResults.diagnostics owner).exec side w = (.ok r, v)) →
      Diagnostics.Reads w v owner r) ∧
    (∀ (owner d : Handle) (w v : World), w.Owns owner d → w.Evolves v → v.Owns owner d) ∧
    (∀ (owner d : Handle) (w : World), w.Owns owner d →
      (∃ v, d.dispose.exec side w = (.ok (), v) ∧ w.Retired owner [d] v) ∧
      (w.isOver owner d = true → Diagnostic.Ended side w d)) ∧
    (∀ (owner : Handle) (ds : List Handle) (w : World), ds.Nodup → (∀ d ∈ ds, w.Owns owner d) →
      ∀ id, ∃ v, (Value.diagnostics (ds.map .handle) id).dispose.exec side w = (.ok (), v) ∧
        (Value.diagnostics (ds.map .handle) id).leave =
          (Value.diagnostics (ds.map .handle) id).dispose ∧ w.Retired owner ds v) ∧
    (∀ w ∈ states side steps, ∀ owner d, w.Owns owner d → w.releases d ≤ 1 ∧
      ∀ c ∈ w.dealings, c.releases d = true → c.call.function = .disposeDiagnostic) ∧
    (states side steps).Pairwise fun u v => ∀ owner d, u.Owns owner d → u.isOver owner d = true →
      v.releases d = u.releases d := by
  refine ⟨fun owner w v r read => ?_, fun _ _ _ _ own k => own.evolves k,
    fun owner d w own => ⟨Handle.exec_dispose own side, fun past =>
      Diagnostic.ended_of_over own past side⟩,
    fun owner ds w distinct owns => Value.exec_dispose_diagnostics distinct owns side,
    fun w m owner d own => ?_, ?_⟩
  · obtain ⟨cls, read⟩ | ⟨cls, read⟩ := read
    · exact TranslationUnit.reads_diagnostics cls read
    · exact CodeCompleteResults.reads_diagnostics cls read
  · have once := releasedOnce_of_mem_states m d
    refine ⟨once.1, fun c mc r => ?_⟩
    have function := (once.2 c mc r).function
    rw [own.cls] at function
    exact (Option.some.inj function).symm
  · refine (pairwise_states side steps).imp fun k owner d own past => ?_
    obtain ⟨new, made, unused⟩ := own.unused past k
    have none : new.countP (·.releases d) = 0 := by
      refine List.countP_eq_zero.mpr fun c m r => ?_
      obtain ⟨p, among, same⟩ := Dealing.party_of_releases r
      exact unused c m p among same
    simp [World.releases, made, none]

def twoDiagnostics : Side where
  answer _ c := match c.function with
    | .getNumDiagnostics => { result := .int 2 }
    | .getDiagnostic => { result := .handle (some "diagnostic") }
    | _ => {}

def readingUnit : List Step := [
  .mk (.value (.handle (.unit true) (some "unit"))) (some "unit"),
  .mk (.read "diagnostics" (.register "unit")) (some "list"),
  .mk (.item (.register "list") (.plain (.int 0))) (some "first"),
  .mk (.call "dispose" (.register "first") [] []) none,
  .mk (.call "dispose" (.register "unit") [] []) none,
  .mk (.call "dispose" (.register "first") [] []) none]

def unitGone : World := (run twoDiagnostics readingUnit).2

theorem diagnostics_end_with_owner_gone :
    unitGone.releases ⟨.diagnostic, 1⟩ = 1 ∧
      Diagnostic.Ended twoDiagnostics unitGone ⟨.diagnostic, 2⟩ ∧
      (∃ v, (Value.diagnostics ([⟨.diagnostic, 1⟩, ⟨.diagnostic, 2⟩].map .handle) 0).dispose.exec
          twoDiagnostics unitGone = (.ok (), v) ∧
        v.isDisposed ⟨.diagnostic, 2⟩ = true ∧ v.dealings = unitGone.dealings) ∧
      ∃ w v r, Diagnostics.Reads w v ⟨.translationUnit, 0⟩ r := by
  have all := diagnostics_end_with_owner twoDiagnostics readingUnit
  have stands : ∃ s, unitGone.handle? ⟨.translationUnit, 0⟩ = some s :=
    Option.isSome_iff_exists.mp (by decide +kernel)
  have first : unitGone.Owns ⟨.translationUnit, 0⟩ ⟨.diagnostic, 1⟩ :=
    ⟨nofun, by decide +kernel, stands⟩
  have second : unitGone.Owns ⟨.translationUnit, 0⟩ ⟨.diagnostic, 2⟩ :=
    ⟨nofun, by decide +kernel, stands⟩
  have once : 0 < unitGone.releases ⟨.diagnostic, 1⟩ := by decide +kernel
  have past : unitGone.isOver ⟨.translationUnit, 0⟩ ⟨.diagnostic, 1⟩ = true ∧
      unitGone.isOver ⟨.translationUnit, 0⟩ ⟨.diagnostic, 2⟩ = true := by decide +kernel
  obtain ⟨v, disposed, -, retired⟩ := all.2.2.2.1 ⟨.translationUnit, 0⟩
    [⟨.diagnostic, 1⟩, ⟨.diagnostic, 2⟩] unitGone (by decide)
    (List.forall_mem_cons.mpr ⟨first, List.forall_mem_cons.mpr ⟨second, nofun⟩⟩) 0
  refine ⟨Nat.le_antisymm
      (all.2.2.2.2.1 unitGone (run_mem_states twoDiagnostics readingUnit) _ _ first).1 once,
    (all.2.2.1 _ _ _ second).2 past.2,
    ⟨v, disposed, retired.gone _ (by simp), by simp [retired.made, past]⟩, ?_⟩
  exact ⟨((Handle.create .translationUnit (.handle (some "unit")) (.unit .none true)).exec
      twoDiagnostics {}).2, _, _, all.1 _ _ _ _ (.inl ⟨rfl, rfl⟩)⟩

/-- Options are read before the diagnostic is looked at, so bad ones hide that it is over. -/
theorem disposed_format_misread :
    unitGone.Owns ⟨.translationUnit, 0⟩ ⟨.diagnostic, 1⟩ ∧
      unitGone.isOver ⟨.translationUnit, 0⟩ ⟨.diagnostic, 1⟩ = true ∧
      (Diagnostic.format ⟨.diagnostic, 1⟩ (.text "x")).exec twoDiagnostics unitGone =
        (.error (.plain .value), unitGone) ∧
      (Failure.plain .value).class? ≠ some .disposedHandle :=
  ⟨⟨nofun, by decide +kernel, Option.isSome_iff_exists.mp (by decide +kernel)⟩, by decide +kernel,
    Diagnostic.exec_format_unread nofun rfl, nofun⟩

end Session

end ClangIndex
