import MylifeHome.Studio.Sessions
import MylifeHome.Studio.Core.TemplateOrder
import MylifeHome.Bus.ResidentState
import MylifeHome.Bus.Subscribers
import MylifeHome.Common.BusPublisher
import MylifeHome.Core.Publication
import MylifeHome.Bus.Rpc
import MylifeHome.Core.Store
import MylifeHome.Studio.Core.Acceptance
import MylifeHome.Studio.Core.BindingIds
import MylifeHome.Studio.Ui.TemplateCycles
import MylifeHome.Studio.Ui.Styles
import MylifeHome.Studio.Ui.InstanceBindings
import MylifeHome.Studio.Ui.RenameDeploys
import MylifeHome.Studio.Ui.Flattening
import MylifeHome.Bus.Logger
import MylifeHome.Common.TypeGrammar
import MylifeHome.Studio.Core.Import.Selection
import MylifeHome.Ui.Display
import MylifeHome.Ui.Sessions
import MylifeHome.Studio.FsCollection
import MylifeHome.Studio.Deploy.Install
import MylifeHome.Studio.Deploy.Archive
import MylifeHome.Studio.Deploy.Recipe
import MylifeHome.Studio.Client.DebounceTime
import MylifeHome.Plugins.Selectors
import MylifeHome.Plugins.Timers.Waits
import MylifeHome.Plugins.Timers.Progress
import MylifeHome.Plugins.Timers.SmartTimer
import MylifeHome.Plugins.Broadlink
import MylifeHome.Plugins.Absoluta.Mail
import MylifeHome.Plugins.Absoluta.Engine
import MylifeHome.Plugins.Tahoma
import MylifeHome.Plugins.Lirc
import MylifeHome.Bus.Presence
import MylifeHome.Studio.Deploy.Files
import MylifeHome.Studio.Deploy.Pins
import MylifeHome.Plugins.SmartInput
