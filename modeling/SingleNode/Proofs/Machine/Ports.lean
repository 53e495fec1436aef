/-
# Trying a port

A host can be reached at the ports from 1 to 65535 (`HostPort.isUsable`).
Trying a port is one request, and its answer is read off the ports that are
taken (`Machine.portAnswer`): a port that is taken is a fault, 0 is as good as
any free port, and a number that is no port at all is a failure of its own.
-/
import SingleNode.Machine.Basic
import SingleNode.Port
import SingleNode.Proofs.Act.Deeds

namespace SingleNode

/-- Holds for the fault that a port cannot be had, raised before anything is
made. -/
def Failure.IsPortFault (e : Failure) : Prop :=
  ∃ f, e = .fault f ∧ f.kind = .portUnavailable ∧ f.stage = "pre-check"

namespace Machine

def portTaken (port : Int) : Fault where
  kind := .portUnavailable
  detail :=
    "port " ++ toString port ++
    " is not available: [Errno 98] Address already in use"
  cause := some .portBusy

def noPort : Failure := .plain .overflow (some "bind(): port must be 0-65535.")

/-- How trying a port ends, by the ports that are taken. -/
def portAnswer (busy : List Int) (port : Int) : Except Failure Unit :=
  if port ∈ busy then .error (.fault (portTaken port))
  else if 0 ≤ port ∧ port ≤ 65535 then .ok ()
  else .error noPort

/-- Trying a port is one request and changes nothing. -/
theorem run_tryPort (port : Int) (m : Machine) :
    (tryPort port).run m =
      ⟨[.bind "localhost" port], m, portAnswer m.busyPorts port⟩ := by
  simp only [tryPort, Act.run_bind, Act.run_emit, Act.run_get, portAnswer]
  by_cases hb : port ∈ m.busyPorts
  · simp [hb, portTaken, Failure.because]
  · by_cases hr : 0 ≤ port ∧ port ≤ 65535
    · have hn : ¬(port < 0 ∨ 65535 < port) := by omega
      simp [hb, hr, hn]
    · have hn : port < 0 ∨ 65535 < port := by omega
      simp [hb, hr, hn, noPort]

theorem portAnswer_eq_ok_iff {busy : List Int} {port : Int} :
    portAnswer busy port = .ok () ↔ port ∉ busy ∧ 0 ≤ port ∧ port ≤ 65535 := by
  rw [portAnswer]
  by_cases hb : port ∈ busy
  · simp [hb]
  · by_cases hr : 0 ≤ port ∧ port ≤ 65535
    · simp [hb, hr]
    · simp [hb, hr]

theorem of_portAnswer_error {busy : List Int} {port : Int} {e : Failure}
    (h : portAnswer busy port = .error e) :
    (port ∈ busy ∧ e = .fault (portTaken port)) ∨
      (port ∉ busy ∧ ¬(0 ≤ port ∧ port ≤ 65535) ∧ e = noPort) := by
  rw [portAnswer] at h
  split at h
  case isTrue hb => exact .inl ⟨hb, (Except.error.inj h).symm⟩
  case isFalse hb =>
    split at h
    case isTrue hr => exact nomatch h
    case isFalse hr => exact .inr ⟨hb, hr, (Except.error.inj h).symm⟩

theorem isPortFault_portTaken (port : Int) :
    (Failure.fault (portTaken port)).IsPortFault :=
  ⟨portTaken port, rfl, rfl, rfl⟩

theorem not_isPortFault_noPort : ¬noPort.IsPortFault := by
  rintro ⟨f, hf, -⟩
  exact nomatch hf

end Machine

theorem HostPort.isUsable_iff (port : Int) :
    isUsable port = true ↔ 1 ≤ port ∧ port ≤ 65535 := by
  rw [isUsable, Bool.and_eq_true, decide_eq_true_iff, decide_eq_true_iff]

end SingleNode
