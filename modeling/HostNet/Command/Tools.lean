/-
**The commands given to the host.**

One command per question or request. A device, a service or a name is always one argument, whatever
its characters are.
-/

import HostNet.Command.Line

namespace HostNet.Command

/-- What the kernel log says when a card has been given its device name. -/
def renamePattern : String := "en[[:xdigit:]]\x7b12\x7d: renamed from "

/-- Replays the events of devices that were added. -/
def replayDevices : Command := ⟨"udevadm", ["trigger", "--action=add"]⟩

/-- Waits until the events of devices have been handled. -/
def settleDevices : Command := ⟨"udevadm", ["settle"]⟩

/-- Searches the log of the running kernel for cards that were given their device names. -/
def searchRenames : Command := ⟨"journalctl", ["-b", "-t", "kernel", "-g", renamePattern]⟩

/-- Asks for the state of a device. -/
def linkStatus (device : String) : Command := ⟨"networkctl", ["status", device]⟩

/-- Asks for the addresses of a device. -/
def showAddresses (device : String) : Command := ⟨"ip", ["address", "show", device]⟩

/-- Asks the service manager to do something with a service. -/
def service (request name : String) : Command := ⟨"systemctl", [request, name]⟩

/-- Restarts a service. -/
def restart (name : String) : Command := service "restart" name

/-- Sets the name of the host; the empty name resets it. -/
def setHostname (name : String) : Command := ⟨"hostnamectl", ["set-hostname", name]⟩

end HostNet.Command
