import Mountaineer.PyDict
import Mountaineer.ClientModel
import Mountaineer.ClientInflection
import Mountaineer.ClientPaths
import Mountaineer.ClientSteps
import Mountaineer.ClientJs
import Mountaineer.ClientGenerate
import Mountaineer.ClientHooks
import Mountaineer.ClientChunks
import Mountaineer.ClientBuild
import Mountaineer.ClientFrame
import Mountaineer.DatabaseEngine
import Mountaineer.Dependencies
