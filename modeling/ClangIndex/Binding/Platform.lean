import ClangIndex.Binding.Disposal

namespace ClangIndex

namespace Version

def parts (v : Version) : List Int := [v.major, v.minor, v.subminor].takeWhile (0 ≤ ·)

def text (v : Version) : String := ".".intercalate (v.parts.map toString)

end Version

namespace Platform

def state (id : Nat) : Binding PlatformState := return ((← World.now).platforms[id]?).getD default

def change (id : Nat) (f : PlatformState → PlatformState)
    (h : ∀ p, (f p).deposit = p.deposit := by exact fun _ => rfl) : Binding Unit :=
  .update (fun w => { w with platforms := w.platforms.modify id f }) fun w => by
    simp only [World.accounts, Array.toList_modify]
    rw [map_modify_same _ f h]

def string (id : Nat) (f : PlatformState → ForeignString) : Binding String := do
  let p ← state id
  if p.disposed then throw .platformDisposed else return (f p).read

def platform (id : Nat) : Binding String := string id (·.platform)

def message (id : Nat) : Binding String := string id (·.message)

def consume (id : Nat) (field : EntryString) : Binding String where
  effect := fun _ w =>
    let s := ((w.platforms[id]?).getD default).string field
    (.ok s.read, { w with strings := w.strings.dispose? s.serial, meddled := true })
  evolves _ w := by
    have meddled := Move.meddle w.accounts
      (w.strings.dispose? (((w.platforms[id]?).getD default).string field).serial) id (fun d => d)
      fun _ => rfl
    rw [show w.accounts.deposits.modify id (fun d => d) = w.accounts.deposits from
      List.modify_id _ _] at meddled
    exact .single meddled

def exchange (id : Nat) (field : EntryString) (other : Nat) (source : EntryString) :
    Binding Unit where
  effect := fun _ w =>
    let s := ((w.platforms[other]?).getD default).string source
    (.ok (), { w with platforms := w.platforms.modify id (·.withString s field), meddled := true })
  evolves _ w := by
    have meddled := Move.meddle w.accounts w.strings id
      (·.withSerial (((w.platforms[other]?).getD default).string source).serial field)
      fun d => d.returned_withSerial _ field
    simp only [World.accounts, Array.toList_modify] at meddled ⊢
    rw [map_modify PlatformState.deposit _
      (·.withSerial (((w.platforms[other]?).getD default).string source).serial field)
      fun p => p.deposit_withString _ field]
    exact .single meddled

def repr (id : Nat) : Binding String := do
  let p ← state id
  if p.disposed then return "<PlatformAvailability disposed>"
  else
    return "<PlatformAvailability " ++ (← platform id) ++
      " introduced=" ++ ((← World.now).version p.introduced).text ++ ">"

end Platform

end ClangIndex
