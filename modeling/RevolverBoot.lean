import RevolverBoot.Model.Types
import RevolverBoot.Model.Handlers
import RevolverBoot.Model.Dispatch
import RevolverBoot.Session.Spec
import RevolverBoot.Session.Refinement
import RevolverBoot.Dispatch.Execution
import RevolverBoot.Dispatch.Latch
import RevolverBoot.Boot.Window
import RevolverBoot.Boot.Exchange
import RevolverBoot.Session.Service
import RevolverBoot.Bridge.Command
import RevolverBoot.Bridge.Transfer
