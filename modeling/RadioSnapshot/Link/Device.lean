import RadioSnapshot.Link.Source

/-!
# Scripted devices

A device follows a script of data and failures. It can be read as it is, where no
bytes mean that there are none for now, or as a stream, where no bytes at all
mean that the stream has ended.
-/

namespace RadioSnapshot

/-- What a device does when it is read. -/
inductive ReadEvent where
  | data (bytes : List UInt8)
  | failure (error : IoError)
  deriving BEq, DecidableEq, Repr

/-- A device that does one thing after the other and then gives nothing. -/
structure Device where
  script : List ReadEvent
  /-- How often the device was read. -/
  reads : Nat
  deriving BEq, DecidableEq, Repr

namespace Device

def ofScript (script : List ReadEvent) : Device :=
  ⟨script, 0⟩

/-- The number of bytes in a script. -/
def scriptSupply : List ReadEvent → Nat
  | [] => 0
  | .data bytes :: rest => bytes.length + scriptSupply rest
  | .failure _ :: rest => scriptSupply rest

def supply (device : Device) : Nat :=
  scriptSupply device.script

/-- Follow the script by one read. Data that does not fit stays for the next
read. -/
def readScript (room : Nat) :
    List ReadEvent → Except IoError (List UInt8) × List ReadEvent
  | [] => (.ok [], [])
  | .failure error :: rest => (.error error, rest)
  | .data bytes :: rest =>
      let left := bytes.drop room
      (.ok (bytes.take room), if left.isEmpty then rest else .data left :: rest)

theorem length_readScript {room : Nat} {script next : List ReadEvent} {data : List UInt8}
    (read : readScript room script = (.ok data, next)) : data.length ≤ room := by
  cases script with
  | nil => simp_all [readScript]
  | cons event rest =>
      cases event with
      | failure error => simp [readScript] at read
      | data bytes =>
          simp only [readScript, Prod.mk.injEq, Except.ok.injEq] at read
          rw [← read.1, List.length_take]
          omega

theorem supply_readScript_error {room : Nat} {script next : List ReadEvent} {error : IoError}
    (read : readScript room script = (.error error, next)) :
    scriptSupply next ≤ scriptSupply script := by
  cases script with
  | nil => simp [readScript] at read
  | cons event rest =>
      cases event with
      | failure cause =>
          simp only [readScript, Prod.mk.injEq] at read
          exact read.2 ▸ Nat.le_refl _
      | data bytes => simp [readScript] at read

theorem supply_readScript {room : Nat} {script next : List ReadEvent} {data : List UInt8}
    (read : readScript room script = (.ok data, next)) :
    scriptSupply next + data.length ≤ scriptSupply script := by
  cases script with
  | nil => simp_all [readScript, scriptSupply]
  | cons event rest =>
      cases event with
      | failure error => simp [readScript] at read
      | data bytes =>
          simp only [readScript, Prod.mk.injEq, Except.ok.injEq] at read
          obtain ⟨rfl, rfl⟩ := read
          by_cases empty : bytes.length ≤ room
          · simp [List.drop_eq_nil_of_le empty, scriptSupply]
            omega
          · have left : bytes.drop room ≠ [] := by simp; omega
            simp [List.isEmpty_iff, left, scriptSupply]
            omega

def isInterruption : ReadEvent → Bool
  | .failure error => error.kind == .interrupted
  | .data _ => false

theorem supply_dropWhile (script : List ReadEvent) :
    scriptSupply (script.dropWhile isInterruption) ≤ scriptSupply script := by
  induction script with
  | nil => simp
  | cons event rest ih =>
      simp only [List.dropWhile_cons]
      split
      · cases event <;> simp only [scriptSupply] <;> omega
      · exact Nat.le_refl _

/-- Read the device as it is: no bytes mean that there are none for now, and
every failure is passed on. -/
def readDirect (room : Nat) (device : Device) : Except LinkError (List UInt8) × Device :=
  let (result, script) := readScript room device.script
  let next : Device := ⟨script, device.reads + 1⟩
  match result with
  | .ok data => (.ok data, next)
  | .error error => (.error (.io error), next)

/-- Read the device as a stream. Interrupted reads are tried again, a read that
would have to wait gives no bytes for now, and a stream that has room for bytes
but none to give has ended. -/
def readStream (room : Nat) (device : Device) : Except LinkError (List UInt8) × Device :=
  let ready := device.script.dropWhile isInterruption
  let interruptions := device.script.length - ready.length
  let (result, script) := readScript room ready
  let next : Device := ⟨script, device.reads + interruptions + 1⟩
  match result with
  | .ok data => (if data.isEmpty ∧ room ≠ 0 then .error .closed else .ok data, next)
  | .error error =>
      if error.kind = .timedOut ∨ error.kind = .wouldBlock then (.ok [], next)
      else (.error (.io error), next)

end Device

/-- A device read as it is. -/
def FiniteSource.direct : FiniteSource Device where
  read := Device.readDirect
  supply := Device.supply
  length_le_room room device data next read := by
    simp only [Device.readDirect] at read
    cases result : Device.readScript room device.script with
    | mk outcome script =>
        cases outcome with
        | error error => simp [result] at read
        | ok bytes =>
            simp only [result, Prod.mk.injEq, Except.ok.injEq] at read
            exact read.1 ▸ Device.length_readScript result
  supply_read room device data next read := by
    simp only [Device.readDirect] at read
    cases result : Device.readScript room device.script with
    | mk outcome script =>
        cases outcome with
        | error error => simp [result] at read
        | ok bytes =>
            simp only [result, Prod.mk.injEq, Except.ok.injEq] at read
            obtain ⟨rfl, rfl⟩ := read
            exact Device.supply_readScript result

/-- A device read as a stream. -/
def FiniteSource.stream : FiniteSource Device where
  read := Device.readStream
  supply := Device.supply
  length_le_room room device data next read := by
    simp only [Device.readStream] at read
    cases result : Device.readScript room (device.script.dropWhile Device.isInterruption) with
    | mk outcome script =>
        cases outcome with
        | error error =>
            simp only [result] at read
            split at read
            · simp_all
            · simp at read
        | ok bytes =>
            simp only [result, Prod.mk.injEq] at read
            split at read
            · simp at read
            · simp only [Except.ok.injEq] at read
              exact read.1 ▸ Device.length_readScript result
  supply_read room device data next read := by
    have skipped := Device.supply_dropWhile device.script
    simp only [Device.readStream] at read
    cases result : Device.readScript room (device.script.dropWhile Device.isInterruption) with
    | mk outcome script =>
        cases outcome with
        | error error =>
            simp only [result] at read
            split at read
            · simp only [Prod.mk.injEq, Except.ok.injEq] at read
              obtain ⟨rfl, rfl⟩ := read
              have := Device.supply_readScript_error result
              simp only [Device.supply, List.length_nil]
              omega
            · simp at read
        | ok bytes =>
            simp only [result, Prod.mk.injEq] at read
            split at read
            · simp at read
            · simp only [Except.ok.injEq] at read
              obtain ⟨rfl, rfl⟩ := read
              have := Device.supply_readScript result
              simp only [Device.supply]
              omega

end RadioSnapshot
